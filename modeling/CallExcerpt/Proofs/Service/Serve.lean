import CallExcerpt.Proofs.Channel.Turns
import CallExcerpt.Proofs.Request.Wire
import CallExcerpt.Proofs.Service.Steady

/-! # Serving what was sent

    The three layers together: requests are written as records, a channel
    tells the records however the pipe is read, and the service handles them
    one after another. Nothing but a wait that the system does not take can
    break its loop off.

    * `handleRecord_of_ok`, `handleRecord_of_error`: a record is handled, or
      its failure is logged; it never fails.
    * `Serves`: the requests that a service has handled between two worlds.
    * `serveFrom_serves`: what a loop does with answers that are known.
    * `serveFrom_listening`: a loop on a channel does what a loop does that
      knows the answers of the channel beforehand.
    * `serves_all_in_order`: requests that are sent are handled, each once and
      in their order, each as by a service that has just loaded its graph.
-/

namespace CallExcerpt

open Styling (Rests)

/-! ## Notes -/

/-- The world after a note. -/
def World.noted (w : World) (n : Note) : World :=
  match Action.log n w with
  | .ok _ w' | .error _ w' => w'

/-! ## Listening to a channel -/

/-- The disk as a serving loop finds it on one occasion. -/
structure Occasion where
  /-- At the end of the wait for a record. -/
  waiting : Disk
  /-- When the channel is opened anew after that. -/
  reopening : Disk

/-- The pipe is in its place on an occasion. -/
structure Occasion.InPlace (base : Location) (path : Path) (o : Occasion) : Prop where
  waiting : o.waiting.InPlace base path
  reopening : o.reopening.InPlace base path

/-- A channel in use, as a serving loop listens to it. -/
def Course.listening (base : Location) : Service.Listening Course Occasion where
  receive seconds o k := (k.ask base o.waiting seconds).mapError .channel
  reopen o k := (k.reopened base o.reopening).mapError .channel

/-- The system takes both waits of a server. -/
def Patience.IsUsable (p : Patience) : Prop :=
  Timeout.isTaken p.shortInterval ∧ Timeout.isTaken p.longInterval

namespace Service

/-- The note that a request has come. -/
def requestNote (r : Request) : Note where
  part := .service
  level := .info
  text := s!"Request for {Text.joinWith Wire.nameSeparator (r.roots ++ r.rootPatterns)}"

/-- The note that a request has failed. -/
def failureNote (failure : Failure) : Note :=
  if failure.isOwn then
    { part := .service, level := .error, text := s!"Request failed: {failure.message}" }
  else {
    part := .service
    level := .error
    text := "Unexpected error while handling request"
    cause := some failure }

/-- The note that the channel is opened anew after so many seconds. -/
def idleNote (path : Path) (seconds : Number.Binary64) : Note where
  part := .service
  level := .debug
  text := s!"Idle for {seconds.onePlace}s, reopening {path}"

theorem run_note (level : Level) (text : String) (s : Station) :
    (Serving.note level text).run s
      = .ok () { s with world := s.world.noted { part := .service, level, text } } := rfl

theorem run_ofExcept_ok {ε α : Type} (failure : ε → Failure) (a : α) (s : Station) :
    (Serving.ofExcept failure (.ok a)).run s = .ok a s := rfl

/-- What was done before a failure stays done. -/
theorem run_tryCatch {α : Type} (x : Serving α) (h : Failure → Serving α) (s : Station) :
    (tryCatch x h).run s
      = match x.run s with
        | .ok a s' => .ok a s'
        | .error failure s' => (h failure).run s' := by
  show EStateM.tryCatch x h s = match x s with
    | .ok a s' => .ok a s'
    | .error failure s' => h failure s'
  unfold EStateM.tryCatch
  cases x s with
  | ok a s' => rfl
  | error failure s' => rfl

/-! ## One record -/

variable {g : Graph} {record : String} {r : Request} {s s' : Station}

theorem handleRecord_of_ok {es : List Excerpt} (hdecode : Wire.decode record = .ok r)
    (hhandle : handle g r ⟨s.world.noted (requestNote r), s.styling⟩ = .ok es s') :
    handleRecord g record s = .ok es s' := by
  show (handleRecord g record).run s = _
  change (handle g r).run _ = _ at hhandle
  simp only [requestNote] at hhandle
  simp only [handleRecord, EStateM.run_bind, run_tryCatch, hdecode, run_ofExcept_ok, run_note,
    hhandle]
  rfl

/-- A failure is logged, and nothing else comes of it. -/
theorem handleRecord_of_error {failure : Failure} (hdecode : Wire.decode record = .ok r)
    (hhandle : handle g r ⟨s.world.noted (requestNote r), s.styling⟩ = .error failure s') :
    handleRecord g record s
      = .ok [] { s' with world := s'.world.noted (failureNote failure) } := by
  show (handleRecord g record).run s = _
  change (handle g r).run _ = _ at hhandle
  simp only [requestNote] at hhandle
  simp only [handleRecord, EStateM.run_bind, run_tryCatch, hdecode, run_ofExcept_ok, run_note,
    hhandle]
  cases hown : failure.isOwn with
  | true =>
    simp only [hown, failureNote, if_true]
    rfl
  | false =>
    simp only [hown, failureNote, Bool.false_eq_true, if_false]
    rfl

/-! ## The loop -/

/-- What a service has done between two worlds: it has handled requests in their order, each as it
    was read from its record, on the world that the one before it left and with the lasting
    attributes; a failure was logged. Between them it may have opened its channel anew. -/
inductive Serves (g : Graph) (path : Path) (fresh : Styling) :
    List Request → World → World → Prop where
  /-- Nothing is left to handle. -/
  | done {w : World} : Serves g path fresh [] w w
  /-- The channel is opened anew. -/
  | idle {requests : List Request} {w w' : World} (seconds : Number.Binary64) :
      Serves g path fresh requests (w.noted (idleNote path seconds)) w' →
      Serves g path fresh requests w w'
  /-- A request is handled. -/
  | handled {requests : List Request} {r r' : Request} {record : String} {es : List Excerpt}
      {w w₁ w' : World} {styling : Styling} :
      Wire.encode r = .ok record → Wire.decode record = .ok r' →
      handle g r' ⟨w.noted (requestNote r'), fresh⟩ = .ok es ⟨w₁, styling⟩ →
      Serves g path fresh requests w₁ w' → Serves g path fresh (r :: requests) w w'
  /-- A request fails. -/
  | failed {requests : List Request} {r r' : Request} {record : String} {failure : Failure}
      {w w₁ w' : World} {styling : Styling} :
      Wire.encode r = .ok record → Wire.decode record = .ok r' →
      handle g r' ⟨w.noted (requestNote r'), fresh⟩ = .error failure ⟨w₁, styling⟩ →
      Serves g path fresh requests (w₁.noted (failureNote failure)) w' →
      Serves g path fresh (r :: requests) w w'

/-- A text is read as the record of a request is. -/
def Tells (r : Request) (text : String) : Prop :=
  ∃ record r', Wire.encode r = .ok record ∧ Wire.decode record = .ok r'
    ∧ Wire.decode text = .ok r'

variable {fresh : Styling} {path : Path} {p : Patience}

/-- One record: it is handled as by a service that rests on the lasting attributes, and the service
    rests on them again. -/
theorem handleRecord_serves (hfresh : Rests fresh fresh) (hrests : Rests fresh s.styling)
    (htells : Tells r record) :
    ∃ es s', handleRecord g record s = .ok es s' ∧ Rests fresh s'.styling
      ∧ ∀ requests w, Serves g path fresh requests s'.world w →
          Serves g path fresh (r :: requests) s.world w := by
  obtain ⟨sent, r', hencode, hdecode, hread⟩ := htells
  -- the service has handled requests before, but only its styling could tell
  have hsame := steady_handle g r' (s.world.noted (requestNote r')) s.styling fresh hrests hfresh
  generalize hhere : handle g r' ⟨s.world.noted (requestNote r'), s.styling⟩ = here at hsame
  generalize hthere : handle g r' ⟨s.world.noted (requestNote r'), fresh⟩ = there at hsame
  cases hsame with
  | @ok es world styling styling' h h' =>
    refine ⟨es, ⟨world, styling⟩, handleRecord_of_ok hread hhere, h, ?_⟩
    intro requests w hrest
    exact .handled hencode hdecode hthere hrest
  | @error failure world styling styling' h h' =>
    refine ⟨[], ⟨world.noted (failureNote failure), styling⟩,
      handleRecord_of_error hread hhere, h, ?_⟩
    intro requests w hrest
    exact .failed hencode hdecode hthere hrest

/-- What cannot be read is logged as a failure of its sender, and nothing else comes of it. -/
theorem handleRecord_of_unread {fault : Wire.Fault} (hdecode : Wire.decode record = .error fault) :
    handleRecord g record s
      = .ok [] { s with world := s.world.noted (failureNote (.record fault)) } := by
  have hread : (Serving.ofExcept Failure.record (Wire.decode record)).run s
      = .error (.record fault) s := by
    rw [hdecode]
    rfl
  show (handleRecord g record).run s = _
  simp only [handleRecord, EStateM.run_bind, run_tryCatch, hread]
  cases hown : (Failure.record fault).isOwn with
  | true =>
    simp only [hown, failureNote, if_true]
    rfl
  | false =>
    simp only [hown, failureNote, Bool.false_eq_true, if_false]
    rfl

/-- A record is always done with: what goes wrong with it is logged. -/
theorem handleRecord_total (g : Graph) (record : String) (s : Station) :
    ∃ es s', handleRecord g record s = .ok es s' := by
  cases hdecode : Wire.decode record with
  | error fault => exact ⟨[], _, handleRecord_of_unread hdecode⟩
  | ok r =>
    cases hhandle : handle g r ⟨s.world.noted (requestNote r), s.styling⟩ with
    | ok es s' => exact ⟨es, s', handleRecord_of_ok hdecode hhandle⟩
    | error failure s' => exact ⟨[], _, handleRecord_of_error hdecode hhandle⟩

/-! ## One round of the loop -/

/-- A wait that brought a record, which was handled. -/
def Watch.took (w : Watch) (seconds : Number.Binary64) : Watch where
  idle := Number.Binary64.ofInt 0
  handled := w.handled + 1
  waits := .receive seconds :: w.waits

/-- A wait that brought nothing. -/
def Watch.waited (w : Watch) (seconds : Number.Binary64) : Watch :=
  { w with waits := .receive seconds :: w.waits }.pass seconds

/-- The channel was opened anew. -/
def Watch.rearmed (w : Watch) : Watch :=
  { w with idle := Number.Binary64.ofInt 0, waits := .reopen :: w.waits }

section Round

variable {κ ω : Type} {listening : Listening κ ω} {w : Watch} {limit : Option Nat} {c c₁ c₂ : κ}
variable {o : ω} {rest : List ω}

theorem serveFrom_of_end (hend : w.goesOn limit = false) (c : κ) (occasions : List ω)
    (s : Station) :
    serveFrom listening g path p limit w c occasions s = .ok (w, c, true) s := by
  show (serveFrom listening g path p limit w c occasions).run s = _
  cases occasions with
  | nil => simp only [serveFrom, hend, Bool.false_eq_true, if_false, EStateM.run_pure]
  | cons occasion rest =>
    simp only [serveFrom, hend, Bool.false_eq_true, if_false, EStateM.run_pure]

theorem serveFrom_nil (hgoes : w.goesOn limit = true) :
    serveFrom listening g path p limit w c [] s
      = .ok ({ w with waits := .receive (p.interval w.idle) :: w.waits }, c, false) s := by
  show (serveFrom listening g path p limit w c []).run s = _
  simp only [serveFrom, hgoes, if_true, EStateM.run_pure]

theorem serveFrom_of_failure {failure : Failure} (hgoes : w.goesOn limit = true)
    (hreceive : listening.receive (p.interval w.idle) o c = .error failure) :
    serveFrom listening g path p limit w c (o :: rest) s = .error failure s := by
  show (serveFrom listening g path p limit w c (o :: rest)).run s = _
  simp only [serveFrom, hgoes, if_true, EStateM.run_bind, hreceive]
  rfl

theorem serveFrom_of_record {es : List Excerpt} (hgoes : w.goesOn limit = true)
    (hreceive : listening.receive (p.interval w.idle) o c = .ok (some record, c₁))
    (hhandle : handleRecord g record s = .ok es s') :
    serveFrom listening g path p limit w c (o :: rest) s
      = serveFrom listening g path p limit (w.took (p.interval w.idle)) c₁ rest s' := by
  show (serveFrom listening g path p limit w c (o :: rest)).run s = _
  change (handleRecord g record).run s = _ at hhandle
  simp only [serveFrom, hgoes, if_true, EStateM.run_bind, hreceive, run_ofExcept_ok, hhandle]
  rfl

theorem serveFrom_of_wait (hgoes : w.goesOn limit = true)
    (hreceive : listening.receive (p.interval w.idle) o c = .ok (none, c₁))
    (hbudget : p.idleBudget.atMost (w.waited (p.interval w.idle)).idle = false) :
    serveFrom listening g path p limit w c (o :: rest) s
      = serveFrom listening g path p limit (w.waited (p.interval w.idle)) c₁ rest s := by
  show (serveFrom listening g path p limit w c (o :: rest)).run s = _
  unfold Watch.waited at hbudget
  simp only [serveFrom, hgoes, if_true, EStateM.run_bind, hreceive, run_ofExcept_ok, hbudget,
    Bool.false_eq_true, if_false]
  rfl

theorem serveFrom_of_idle (hgoes : w.goesOn limit = true)
    (hreceive : listening.receive (p.interval w.idle) o c = .ok (none, c₁))
    (hbudget : p.idleBudget.atMost (w.waited (p.interval w.idle)).idle = true)
    (hreopen : listening.reopen o c₁ = .ok c₂) :
    serveFrom listening g path p limit w c (o :: rest) s
      = serveFrom listening g path p limit (w.waited (p.interval w.idle)).rearmed c₂ rest
          { s with world := s.world.noted (idleNote path (w.waited (p.interval w.idle)).idle) } := by
  show (serveFrom listening g path p limit w c (o :: rest)).run s = _
  unfold Watch.waited at hbudget
  simp only [serveFrom, hgoes, if_true, EStateM.run_bind, hreceive, run_ofExcept_ok, hbudget,
    run_note, hreopen]
  rfl

end Round

/-! ## The loop, with answers that are known -/

/-- The answers of a channel, one after another. -/
abbrev known : Listening Unit (Option String) := scripted fun _ => none

/-- A loop that is told the records of as many requests as it still waits for handles them all and
    comes to its end. -/
theorem serveFrom_serves (hfresh : Rests fresh fresh) {n : Nat} (answers : List (Option String)) :
    ∀ (w : Watch) (s : Station) (requests : List Request),
      List.Forall₂ Tells requests answers.reduceOption → w.handled + requests.length = n →
      Rests fresh s.styling →
      ∃ w' s', serveFrom known g path p (some n) w () answers s = .ok (w', (), true) s'
        ∧ w'.handled = n ∧ Rests fresh s'.styling
        ∧ Serves g path fresh requests s.world s'.world := by
  -- once all requests are handled the loop ends, whatever its channel would still tell
  have hended : ∀ (answers : List (Option String)) (w : Watch) (s : Station), w.handled = n →
      Rests fresh s.styling →
      ∃ w' s', serveFrom known g path p (some n) w () answers s = .ok (w', (), true) s'
        ∧ w'.handled = n ∧ Rests fresh s'.styling
        ∧ Serves g path fresh [] s.world s'.world := by
    intro answers w s hcount hrests
    have hend : w.goesOn (some n) = false := by simp [Watch.goesOn, hcount]
    exact ⟨w, s, serveFrom_of_end hend () answers s, hcount, hrests, .done⟩
  induction answers with
  | nil =>
    intro w s requests htold hcount hrests
    obtain rfl : requests = [] := List.forall₂_nil_right_iff.mp htold
    exact hended [] w s hcount hrests
  | cons answer answers ih =>
    intro w s requests htold hcount hrests
    cases requests with
    | nil => exact hended (answer :: answers) w s hcount hrests
    | cons r requests =>
      have hgoes : w.goesOn (some n) = true := by
        simp only [List.length_cons] at hcount
        simp only [Watch.goesOn, decide_eq_true_eq]
        omega
      cases answer with
      | some record =>
        rw [List.reduceOption_cons_of_some, List.forall₂_cons] at htold
        obtain ⟨es, s₁, hhandle, hrests₁, hserves⟩ :
            ∃ es s₁, handleRecord g record s = .ok es s₁ ∧ Rests fresh s₁.styling
              ∧ ∀ requests w, Serves g path fresh requests s₁.world w →
                Serves g path fresh (r :: requests) s.world w :=
          handleRecord_serves hfresh hrests htold.1
        have hcount₁ : (w.took (p.interval w.idle)).handled + requests.length = n := by
          simp only [List.length_cons] at hcount
          show w.handled + 1 + requests.length = n
          omega
        obtain ⟨w', s', hrun, hhandled, hrests', hrest⟩ :=
          ih (w.took (p.interval w.idle)) s₁ requests htold.2 hcount₁ hrests₁
        rw [serveFrom_of_record hgoes rfl hhandle]
        exact ⟨w', s', hrun, hhandled, hrests', hserves requests s'.world hrest⟩
      | none =>
        rw [List.reduceOption_cons_of_none] at htold
        -- a wait in vain uses up the budget, or does not
        cases hbudget : p.idleBudget.atMost (w.waited (p.interval w.idle)).idle with
        | true =>
          obtain ⟨w', s', hrun, hhandled, hrests', hrest⟩ :=
            ih (w.waited (p.interval w.idle)).rearmed
              { s with
                world := s.world.noted (idleNote path (w.waited (p.interval w.idle)).idle) }
              (r :: requests) htold hcount hrests
          rw [serveFrom_of_idle hgoes rfl hbudget rfl]
          exact ⟨w', s', hrun, hhandled, hrests', .idle _ hrest⟩
        | false =>
          rw [serveFrom_of_wait hgoes rfl hbudget]
          exact ih (w.waited (p.interval w.idle)) s (r :: requests) htold hcount hrests

/-! ## The loop on a channel -/

/-- The wait that a server asks for is one of its two intervals. -/
theorem isTaken_interval (hwaits : p.IsUsable) (idle : Number.Binary64) :
    Timeout.isTaken (p.interval idle) := by
  unfold Patience.interval
  split
  · exact hwaits.1
  · exact hwaits.2

/-- The loop was broken off since the system does not take the wait that it asked for. -/
inductive Interrupted (p : Patience) {α : Type} : EStateM.Result Failure Station α → Prop where
  /-- The wait is not taken. -/
  | noWait {idle : Number.Binary64} {fault : Timeout.Fault} {s : Station} :
      Timeout.millis (p.interval idle) = .error fault →
      Interrupted p (.error (.channel (.noWait fault)) s)

theorem not_interrupted_of_isUsable {α : Type} {result : EStateM.Result Failure Station α}
    (hwaits : p.IsUsable) : ¬ Interrupted p result := by
  rintro ⟨hmillis⟩
  obtain ⟨n, htaken⟩ := Timeout.exists_millis_of_isTaken (isTaken_interval hwaits _)
  rw [htaken] at hmillis
  cases hmillis

/-- What becomes of a loop on a channel: it does what one does that knows the answers of the channel
    beforehand, unless a wait breaks it off. -/
inductive Listens (g : Graph) (path : Path) (p : Patience) (limit : Option Nat) (w : Watch)
    (k : Course) (s : Station) : EStateM.Result Failure Station (Watch × Course × Bool) → Prop where
  /-- The channel has told its answers. -/
  | told {w' : Watch} {k' : Course} {ended : Bool} {s' : Station}
      (answers : List (Option String)) :
      k'.told = k.told ++ answers → Course.Sound k' →
      serveFrom known g path p limit w () answers s = .ok (w', (), ended) s' →
      Listens g path p limit w k s (.ok (w', k', ended) s')
  /-- A wait is not taken. -/
  | interrupted {result : EStateM.Result Failure Station (Watch × Course × Bool)} :
      Interrupted p result → Listens g path p limit w k s result

/-- One round of a loop on a channel that was answered, before what it does then. -/
theorem Listens.before {limit : Option Nat} {w w₁ : Watch} {k k₁ : Course} {s s₁ : Station}
    {answer : Option String} {result : EStateM.Result Failure Station (Watch × Course × Bool)}
    (hlistens : Listens g path p limit w₁ k₁ s₁ result) (htold : k₁.told = k.told ++ [answer])
    (hround : ∀ answers, serveFrom known g path p limit w () (answer :: answers) s
      = serveFrom known g path p limit w₁ () answers s₁) :
    Listens g path p limit w k s result := by
  cases hlistens with
  | told answers htold' hsound' hrun =>
    refine .told (answer :: answers) ?_ hsound' ((hround answers).trans hrun)
    rw [htold', htold, List.append_assoc, List.singleton_append]
  | interrupted hbroken => exact .interrupted hbroken

/-- With the pipe in its place whenever the loop comes to it, a loop on an open channel listens. -/
theorem serveFrom_listening (base : Location) (limit : Option Nat) (occasions : List Occasion) :
    ∀ (w : Watch) (k : Course) (s : Station),
      k.channel.reader.isSome → Course.Sound k →
      (∀ o ∈ occasions, o.InPlace base k.channel.path) →
      Listens g path p limit w k s
        (serveFrom (Course.listening base) g path p limit w k occasions s) := by
  induction occasions with
  | nil =>
    intro w k s _ hsound _
    cases hgoes : w.goesOn limit with
    | false =>
      rw [serveFrom_of_end hgoes]
      exact .told [] (List.append_nil _).symm hsound (serveFrom_of_end hgoes () [] s)
    | true =>
      rw [serveFrom_nil hgoes]
      exact .told [] (List.append_nil _).symm hsound (serveFrom_nil hgoes)
  | cons o occasions ih =>
    intro w k s hopen hsound hplace
    obtain ⟨hwaiting, hreopening⟩ := hplace o List.mem_cons_self
    cases hgoes : w.goesOn limit with
    | false =>
      rw [serveFrom_of_end hgoes]
      exact .told [] (List.append_nil _).symm hsound (serveFrom_of_end hgoes () [] s)
    | true =>
      rcases Course.ask_of_inPlace (p.interval w.idle) hopen hwaiting with
        ⟨answer, k₁, hask, ⟨hpath₁, hopen₁⟩, hsteps, htold₁⟩ | ⟨fault, hask, hmillis⟩
      case inr =>
        have hreceive : (Course.listening base).receive (p.interval w.idle) o k
            = .error (.channel (.noWait fault)) := by
          show (k.ask base o.waiting _).mapError Failure.channel = _
          rw [hask]
          rfl
        rw [serveFrom_of_failure hgoes hreceive]
        exact .interrupted (.noWait hmillis)
      have hreceive : (Course.listening base).receive (p.interval w.idle) o k
          = .ok (answer, k₁) := by
        show (k.ask base o.waiting _).mapError Failure.channel = _
        rw [hask]
        rfl
      have hplace₁ : ∀ o ∈ occasions, o.InPlace base k₁.channel.path := by
        intro u hu
        rw [hpath₁]
        exact hplace u (.tail _ hu)
      cases answer with
      | some record =>
        obtain ⟨es, s₁, hhandle⟩ := handleRecord_total g record s
        rw [serveFrom_of_record hgoes hreceive hhandle]
        exact (ih _ k₁ s₁ hopen₁ (hsound.step hsteps) hplace₁).before htold₁
          fun answers => serveFrom_of_record hgoes rfl hhandle
      | none =>
        cases hbudget : p.idleBudget.atMost (w.waited (p.interval w.idle)).idle with
        | true =>
          obtain ⟨k₂, hreopened, ⟨hpath₂, hopen₂⟩, hsteps₂, htold₂⟩ :=
            Course.reopened_of_inPlace hopen₁ (hpath₁ ▸ hreopening)
          have hreopen : (Course.listening base).reopen o k₁ = .ok k₂ := by
            show (k₁.reopened base o.reopening).mapError Failure.channel = _
            rw [hreopened]
            rfl
          have hplace₂ : ∀ o ∈ occasions, o.InPlace base k₂.channel.path := by
            rw [hpath₂]
            exact hplace₁
          rw [serveFrom_of_idle hgoes hreceive hbudget hreopen]
          exact (ih _ k₂ _ hopen₂ ((hsound.step hsteps).step hsteps₂) hplace₂).before
            (htold₂.trans htold₁) fun answers => serveFrom_of_idle hgoes rfl hbudget rfl
        | false =>
          rw [serveFrom_of_wait hgoes hreceive hbudget]
          exact (ih _ k₁ s hopen₁ (hsound.step hsteps) hplace₁).before htold₁
            fun answers => serveFrom_of_wait hgoes rfl hbudget

/-! ## From the sender to the world -/

/-- The note that the service waits for requests. -/
def waitingNote (path : Path) : Note where
  part := .service
  level := .info
  text := s!"Waiting for requests on {path}"

theorem serveOn_eq {κ ω : Type} (listening : Listening κ ω) (limit : Option Nat) (c : κ)
    (occasions : List ω) :
    serveOn listening g path p limit c occasions s
      = serveFrom listening g path p limit {} c occasions
          ⟨s.world.noted (waitingNote path), s.styling⟩ := by
  show (serveOn listening g path p limit c occasions).run s = _
  rw [serveOn, EStateM.run_bind, announce, run_note]
  rfl

/-- What is sent for a request is a record, and its text tells the request. -/
theorem isRecord_of_encode {r : Request} {record : String} (h : Wire.encode r = .ok record) :
    Inbox.IsRecord record (Wire.body r) ∧ Tells r (Wire.body r) := by
  obtain ⟨hsendable, hrecord⟩ := Wire.encode_eq_ok_iff.mp h
  refine ⟨⟨hrecord, Wire.recordSeparator_not_mem_body hsendable, 'c', ?_, by decide⟩,
    record, Wire.reread r, h, Wire.decode_of_encode h, Wire.decode_body hsendable⟩
  obtain ⟨middle, hbody⟩ := Wire.body_ends r
  rw [hbody]
  simp [Wire.tag]

theorem isRecord_of_forall₂_encode {requests : List Request} {records : List String}
    (h : List.Forall₂ (fun r record => Wire.encode r = .ok record) requests records) :
    List.Forall₂ Inbox.IsRecord records (requests.map Wire.body) := by
  rw [List.forall₂_map_right_iff]
  refine List.Forall₂.flip (h.imp ?_)
  intro r record hencode
  exact (isRecord_of_encode hencode).1

theorem tells_of_forall₂_encode {requests : List Request} {records : List String}
    (h : List.Forall₂ (fun r record => Wire.encode r = .ok record) requests records) :
    List.Forall₂ Tells requests (requests.map Wire.body) := by
  have hall : List.Forall₂ (fun r record => Tells r (Wire.body r) ∧ Wire.encode r = .ok record)
      requests records := h.imp fun r record hencode => ⟨(isRecord_of_encode hencode).2, hencode⟩
  rw [List.forall₂_map_right_iff, List.forall₂_same]
  exact ((List.forall₂_and_left requests records).mp hall).1

/-- What was told and is pending is all that was sent, once all has been found and nothing is
    pending. -/
theorem told_of_brings {records : List String} {requests : List Request} {k : Course}
    (hrecords : List.Forall₂ Inbox.IsRecord records (requests.map Wire.body))
    (hsound : Course.Sound k) (hbrings : Inbox.Brings records k.reads)
    (hpending : k.channel.inbox.pending = []) :
    k.told.reduceOption = requests.map Wire.body := by
  have htotal := hsound.total
  rw [Inbox.after_of_brings hrecords hbrings] at htotal
  have hjoined := congrArg Inbox.pending htotal
  simpa [Inbox.withTold, hpending] using hjoined

/-- A request that the service can find no symbol for. -/
def strayRequest : Request := { roots := ["main"] }

/-- The octets of its record. -/
def strayOctets : List UInt8 :=
  Text.Utf8.encode ((Wire.body strayRequest).push Wire.recordSeparator)

/-- Occasions that bring the record in two parts. -/
def strayOccasions : List Occasion := [
  ⟨Course.pipeDisk (strayOctets.take 20) 1, Course.pipeDisk [] 1⟩,
  ⟨Course.pipeDisk (strayOctets.drop 20) 1, Course.pipeDisk [] 1⟩]

theorem strayOccasions_inPlace :
    ∀ o ∈ strayOccasions, o.InPlace [] Course.pipeChannel.path := by
  intro o ho
  simp only [strayOccasions, List.mem_cons, List.not_mem_nil, or_false] at ho
  rcases ho with rfl | rfl <;> exact ⟨Course.pipeDisk_inPlace _ _, Course.pipeDisk_inPlace _ _⟩

theorem encode_strayRequest :
    Wire.encode strayRequest = .ok ((Wire.body strayRequest).push Wire.recordSeparator) :=
  Wire.encode_of_sendable (by decide)

theorem isUsable_default : Patience.IsUsable {} := ⟨by decide +kernel, by decide +kernel⟩

/-- With the intervals that a server has by itself, the first part is waited for in vain, and the
    second one completes the record. -/
theorem run_serveOn_stray :
    ∃ w s', serveOn (Course.listening []) {} Course.pipeChannel.path {} (some 1)
        { channel := Course.pipeChannel } strayOccasions {}
      = .ok (w, ⟨Course.pipeChannel,
          [.octets (strayOctets.take 20), .octets (strayOctets.drop 20)],
          [none, some (Wire.body strayRequest)]⟩, true) s' := by
  let begun : Station := { world := World.noted {} (waitingNote Course.pipeChannel.path) }
  let k₁ : Course := {
    channel := { Course.pipeChannel with
      inbox := { buffer := (Wire.body strayRequest).toList.take 20 } }
    reads := [.octets (strayOctets.take 20)]
    told := [none] }
  -- the intervals are as good as no wait at all, with which the rounds can be computed
  have hlistens : ∀ (w : Watch) (o : Occasion) (k : Course),
      (Course.listening []).receive (Patience.interval {} w.idle) o k
        = (k.ask [] o.waiting (Number.Binary64.ofInt 0)).mapError Failure.channel := by
    intro w o k
    have hnone : Timeout.isTaken (Number.Binary64.ofInt 0) := by decide
    show (k.ask [] o.waiting _).mapError Failure.channel = _
    rw [Course.ask_congr (isTaken_interval isUsable_default w.idle) hnone]
  let w₁ : Watch := Watch.waited {} (Patience.interval {} (Watch.idle {}))
  have hfirst : (Course.listening []).receive (Patience.interval {} (Watch.idle {}))
      ⟨Course.pipeDisk (strayOctets.take 20) 1, Course.pipeDisk [] 1⟩
      { channel := Course.pipeChannel } = .ok (none, k₁) := (hlistens {} _ _).trans rfl
  have hsecond : (Course.listening []).receive (Patience.interval {} w₁.idle)
      ⟨Course.pipeDisk (strayOctets.drop 20) 1, Course.pipeDisk [] 1⟩ k₁
      = .ok (some (Wire.body strayRequest), ⟨Course.pipeChannel,
          [.octets (strayOctets.take 20), .octets (strayOctets.drop 20)],
          [none, some (Wire.body strayRequest)]⟩) := (hlistens w₁ _ _).trans rfl
  have hbudget : (Patience.idleBudget {}).atMost w₁.idle = false := by decide +kernel
  obtain ⟨es, s', hhandle⟩ := handleRecord_total {} (Wire.body strayRequest) begun
  rw [serveOn_eq, strayOccasions, serveFrom_of_wait rfl hfirst hbudget,
    serveFrom_of_record rfl hsecond hhandle, serveFrom_of_end rfl]
  exact ⟨_, _, rfl⟩

end Service

end CallExcerpt
