import CallExcerpt.Channel.Basic
import CallExcerpt.Proofs.Channel.Inbox
import Mathlib.Data.List.ReduceOption

/-! # A channel turn by turn

    Whoever has a channel receives from it and opens it anew, in any order, with
    waits of any length, and finds the disk as the writers left it. As long as
    the pipe is in its place nothing fails but a wait that the system does not
    take, which changes nothing; and what was told and is still pending is what
    the inbox makes of all that was found on the pipe.

    * `Course.ask`, `Course.reopened`: the two operations of a channel in use.
    * `Turn`, `Course.turn`: one turn, by these operations.
    * `Course.ask_of_inPlace`, `Course.reopened_of_inPlace`: the three things
      that they can do.
    * `Course.run_of_inPlace`: what any turns preserve.
    * `Course.tells_what_octets_say`: what a receiver is told up to the end of
      the input, whatever the cuts, the waits and the openings.
-/

namespace CallExcerpt

open Number (Binary64)

/-! ## A pipe in its place -/

/-- The name of a pipe stands at the path. -/
def Disk.InPlace (disk : Disk) (base : Location) (path : Path) : Prop :=
  ∃ number, disk.entryAt? base path = some (.pipe number)

/-- Two disks differ in what their pipes hold, and in nothing else. -/
structure Disk.SameTree (d d' : Disk) : Prop where
  entries : d.entries = d'.entries
  limits : d.limits = d'.limits

theorem Disk.SameTree.trans {d d' d'' : Disk} (h : d.SameTree d') (h' : d'.SameTree d'') :
    d.SameTree d'' where
  entries := h.entries.trans h'.entries
  limits := h.limits.trans h'.limits

theorem Disk.follow_congr {d d' : Disk} (h : d.SameTree d') (l : Location)
    (names : List String) : d.follow l names = d'.follow l names := by
  have hfind : ∀ l, d.find? l = d'.find? l := by
    intro l
    rw [Disk.find?, Disk.find?, h.entries]
  induction names generalizing l with
  | nil => rfl
  | cons n ns ih => simp only [Disk.follow, hfind, ih, h.limits]

/-- What stands at a path does not depend on what the pipes hold. -/
theorem Disk.entryAt?_congr {d d' : Disk} (h : d.SameTree d') (base : Location)
    (path : Path) : d.entryAt? base path = d'.entryAt? base path := by
  have hlocate : d.locate base path = d'.locate base path := by
    simp only [Disk.locate, Disk.follow_congr h]
  simp only [Disk.entryAt?, hlocate, Disk.find?, h.entries]

theorem Disk.InPlace.congr {d d' : Disk} {base : Location} {path : Path}
    (hplace : d.InPlace base path) (h : d'.SameTree d) : d'.InPlace base path := by
  obtain ⟨number, hentry⟩ := hplace
  exact ⟨number, (Disk.entryAt?_congr h base path).trans hentry⟩

namespace OnDisk

theorem read_eq (r : ReadEnd) (limit : Nat) (d : Disk) :
    ∃ a d', read r limit d = .ok a d' ∧ d'.SameTree d := by
  show ∃ a d', (read r limit).run d = .ok a d' ∧ d'.SameTree d
  simp only [read, pipeOf, modifyPipe, EStateM.run_bind, EStateM.run_get, EStateM.run_pure]
  split
  · exact ⟨_, _, rfl, rfl, rfl⟩
  · exact ⟨_, _, rfl, rfl, rfl⟩

theorem openReader_of_inPlace {d : Disk} {base : Location} {path : Path}
    (hplace : d.InPlace base path) :
    ∃ r d', openReader base path d = .ok r d' ∧ d'.SameTree d := by
  obtain ⟨number, hentry⟩ := hplace
  unfold Disk.entryAt? at hentry
  split at hentry
  · cases hentry
  case isFalse hnull =>
    split at hentry
    case h_2 => cases hentry
    case h_1 l hl =>
      have hlocate : (locate base path).run d = .ok l d := by
        simp only [locate, hnull, Bool.false_eq_true, if_false, EStateM.run_bind,
          EStateM.run_get, hl, EStateM.run_pure]
      show ∃ r d', (openReader base path).run d = .ok r d' ∧ d'.SameTree d
      simp only [openReader, EStateM.run_bind, hlocate, EStateM.run_get, hentry, pipeOf,
        modifyPipe, EStateM.run_pure, EStateM.run_modify]
      exact ⟨_, _, rfl, rfl, rfl⟩

theorem closeReader_eq (r : ReadEnd) (d : Disk) :
    ∃ d', closeReader r d = .ok () d' ∧ d'.SameTree d :=
  ⟨_, rfl, rfl, rfl⟩

end OnDisk

/-! ## What the operations of a channel do -/

theorem Timeout.exists_millis_of_isTaken {seconds : Binary64} (h : isTaken seconds) :
    ∃ n, millis seconds = .ok n := by
  rw [isTaken] at h
  cases hmillis : millis seconds with
  | error fault => simp [hmillis, Except.isOk, Except.toBool] at h
  | ok n => exact ⟨n, rfl⟩

namespace OnChannel

theorem run_onDisk {α : Type} {fault : SystemFault → Channel.Fault} {x : OnDisk α}
    {s : Channel.Site} {a : α} {d : Disk} (h : x s.disk = .ok a d) :
    (onDisk fault x).run s = .ok a { s with disk := d } := by
  show onDisk fault x s = _
  rw [onDisk, h]

theorem run_update (f : Channel → Channel) (s : Channel.Site) :
    (update f).run s = .ok () { s with channel := f s.channel } := by
  rw [update, EStateM.run_modify]

theorem run_reopen {s : Channel.Site} {old : ReadEnd} (hopen : s.channel.reader = some old)
    (hplace : s.disk.InPlace s.base s.channel.path) :
    ∃ new d, reopen.run s = .ok () ⟨d, s.base, { s.channel with reader := some new }⟩
      ∧ d.SameTree s.disk := by
  obtain ⟨new, d, hnew, hd⟩ := OnDisk.openReader_of_inPlace hplace
  obtain ⟨d', hclose, hd'⟩ := OnDisk.closeReader_eq old d
  refine ⟨new, d', ?_, hd'.trans hd⟩
  simp only [reopen, EStateM.run_bind, EStateM.run_get, hopen]
  rw [run_onDisk hnew]
  simp only
  rw [run_onDisk hclose]
  simp only [run_update]

/-- A look at the pipe: the inbox accepts what is there, and the channel stays open. -/
theorem run_look {s : Channel.Site} {old : ReadEnd} (hopen : s.channel.reader = some old)
    (hplace : s.disk.InPlace s.base s.channel.path) :
    ∃ a d r, look.run s
        = .ok () ⟨d, s.base,
            { s.channel with reader := some r, inbox := s.channel.inbox.accept a }⟩
      ∧ ∃ d', OnDisk.read old Channel.readSize s.disk = .ok a d' := by
  obtain ⟨a, d, hread, hd⟩ := OnDisk.read_eq old Channel.readSize s.disk
  simp only [look, EStateM.run_bind, EStateM.run_get, hopen]
  rw [run_onDisk hread]
  simp only [run_update]
  -- after the end of the input the channel waits for the next writer with a new end of the pipe
  by_cases ha : a = .hangUp
  · subst ha
    let site : Channel.Site :=
      ⟨d, s.base, { s.channel with inbox := s.channel.inbox.accept .hangUp }⟩
    obtain ⟨new, d', hreopen, -⟩ := run_reopen (s := site) hopen (hplace.congr hd)
    refine ⟨.hangUp, d', new, ?_, d, hread⟩
    simpa [site] using hreopen
  · refine ⟨a, d, old, ?_, d, hread⟩
    simp [ha, hopen]

theorem run_take (s : Channel.Site) :
    take.run s = .ok s.channel.inbox.tell.1
      { s with channel := { s.channel with inbox := s.channel.inbox.tell.2 } } := by
  simp only [take, EStateM.run_bind, EStateM.run_get, Inbox.tell]
  cases s.channel.inbox.take? with
  | none => rfl
  | some told => rfl

theorem run_receive_of_pending (seconds : Binary64) {s : Channel.Site} {record : String}
    {rest : List String} (hpending : s.channel.inbox.pending = record :: rest) :
    (receive seconds).run s = .ok s.channel.inbox.tell.1
      { s with channel := { s.channel with inbox := s.channel.inbox.tell.2 } } := by
  have htell : s.channel.inbox.tell.1 = some record := by
    simp [Inbox.tell, Inbox.take?, hpending]
  simp only [receive, EStateM.run_bind, run_take, htell, EStateM.run_pure]

section Waiting

variable {seconds : Binary64} {s : Channel.Site}

/-- With nothing pending, an open channel waits. -/
theorem run_receive_of_nothing (hpending : s.channel.inbox.pending = [])
    (hopen : s.channel.reader.isSome) :
    (receive seconds).run s
      = match Timeout.millis seconds with
        | .error fault => .error (.noWait fault) s
        | .ok _ => (do look; take).run s := by
  have htell : s.channel.inbox.tell = (none, s.channel.inbox) := by
    simp [Inbox.tell, Inbox.take?, hpending]
  have hreader : s.channel.reader.isNone = false := by
    rw [Option.isNone_eq_false_iff]
    exact hopen
  simp only [receive, EStateM.run_bind, run_take, htell, EStateM.run_get, hreader,
    Bool.false_eq_true, if_false]
  cases Timeout.millis seconds with
  | error fault => rfl
  | ok thousandths => simp only [EStateM.run_bind, run_take]

theorem run_receive_of_look {s' : Channel.Site} (hpending : s.channel.inbox.pending = [])
    (hopen : s.channel.reader.isSome) (htaken : Timeout.isTaken seconds)
    (hlook : look.run s = .ok () s') :
    (receive seconds).run s = .ok s'.channel.inbox.tell.1
      { s' with channel := { s'.channel with inbox := s'.channel.inbox.tell.2 } } := by
  obtain ⟨thousandths, hmillis⟩ := Timeout.exists_millis_of_isTaken htaken
  rw [run_receive_of_nothing hpending hopen, hmillis]
  simp only [EStateM.run_bind, hlook, run_take]

theorem receive_congr {seconds' : Binary64} (htaken : Timeout.isTaken seconds)
    (htaken' : Timeout.isTaken seconds') : receive seconds = receive seconds' := by
  obtain ⟨n, hn⟩ := Timeout.exists_millis_of_isTaken htaken
  obtain ⟨n', hn'⟩ := Timeout.exists_millis_of_isTaken htaken'
  simp only [receive, hn, hn']

end Waiting

end OnChannel

/-! ## Turns -/

namespace Channel

/-- What a receiver finds on the pipe; it does not look while a record is pending. -/
def finds (c : Channel) (disk : Disk) : List Arrival :=
  match c.inbox.pending, c.reader with
  | [], some r =>
    match OnDisk.read r readSize disk with
    | .ok a _ => [a]
    | .error _ _ => []
  | _, _ => []

end Channel

/-- What somebody does with a channel, and the disk that is there then. -/
inductive Turn where
  /-- A record is asked for, with a wait of some seconds. -/
  | receive (disk : Disk) (seconds : Binary64 := Binary64.ofInt 0)
  /-- The channel is opened anew. -/
  | reopen (disk : Disk)

/-- The disk that is there at a turn. -/
def Turn.disk : Turn → Disk
  | .receive disk _ | .reopen disk => disk

/-- A channel in use. -/
structure Course where
  /-- The channel. -/
  channel : Channel
  /-- What was found on the pipe, in order. -/
  reads : List Arrival := []
  /-- What the receiver was told, in order. -/
  told : List (Option String) := []

namespace Course

/-- A record is asked for, with a wait of some seconds. -/
def ask (base : Location) (disk : Disk) (seconds : Binary64) (k : Course) :
    Except Channel.Fault (Option String × Course) :=
  match OnChannel.receive seconds ⟨disk, base, k.channel⟩ with
  | .ok told site => .ok (told, {
      channel := site.channel
      reads := k.reads ++ k.channel.finds disk
      told := k.told ++ [told] })
  | .error fault _ => .error fault

/-- The channel is opened anew. -/
def reopened (base : Location) (disk : Disk) (k : Course) : Except Channel.Fault Course :=
  match OnChannel.reopen ⟨disk, base, k.channel⟩ with
  | .ok _ site => .ok { k with channel := site.channel }
  | .error fault _ => .error fault

/-- One turn. Whoever asks with a wait that the system does not take may go on with other turns. -/
def turn (base : Location) (k : Course) : Turn → Except Channel.Fault Course
  | .receive disk seconds =>
    match k.ask base disk seconds with
    | .ok (_, k') => .ok k'
    | .error (.noWait _) => .ok k
    | .error fault => .error fault
  | .reopen disk => k.reopened base disk

/-- Turns in order. -/
def run (base : Location) (turns : List Turn) (k : Course) : Except Channel.Fault Course :=
  turns.foldlM (turn base) k

/-- What the operations of a channel can do: nothing, open the channel anew, tell a record that is
    pending, or look at the pipe and tell what has come of that. -/
inductive Steps (k : Course) : Course → Prop where
  /-- Nothing is done. -/
  | refused : Steps k k
  /-- The channel is opened anew, and nothing else. -/
  | reopened {c : Channel} :
      c.inbox = k.channel.inbox → Steps k { k with channel := c }
  /-- A record was pending. -/
  | told {c : Channel} :
      k.channel.inbox.pending ≠ [] → c.inbox = k.channel.inbox.tell.2 →
      Steps k { k with channel := c, told := k.told ++ [k.channel.inbox.tell.1] }
  /-- Nothing was pending. -/
  | looked {c : Channel} {a : Arrival} :
      k.channel.inbox.pending = [] → c.inbox = (k.channel.inbox.accept a).tell.2 →
      Steps k {
        channel := c
        reads := k.reads ++ [a]
        told := k.told ++ [(k.channel.inbox.accept a).tell.1] }

/-- A channel is as open, and at the same path, after some step as before. -/
structure StaysOpen (k k' : Course) : Prop where
  path : k'.channel.path = k.channel.path
  isOpen : k'.channel.reader.isSome

section InPlace

variable {base : Location} {disk : Disk} {k : Course}

/-- With the pipe in its place, an open channel can be opened anew. -/
theorem reopened_of_inPlace (hopen : k.channel.reader.isSome)
    (hplace : disk.InPlace base k.channel.path) :
    ∃ k', k.reopened base disk = .ok k' ∧ StaysOpen k k' ∧ Steps k k' ∧ k'.told = k.told := by
  obtain ⟨old, hold⟩ := Option.isSome_iff_exists.mp hopen
  obtain ⟨new, d, hreopen, -⟩ := OnChannel.run_reopen (s := ⟨disk, base, k.channel⟩) hold hplace
  refine ⟨{ k with channel := { k.channel with reader := some new } }, ?_, ⟨rfl, rfl⟩,
    .reopened rfl, rfl⟩
  have hrun : OnChannel.reopen ⟨disk, base, k.channel⟩ = _ := hreopen
  rw [reopened, hrun]

/-- With the pipe in its place, whoever asks an open channel is answered, unless the system does not
    take the wait. -/
theorem ask_of_inPlace (seconds : Binary64) (hopen : k.channel.reader.isSome)
    (hplace : disk.InPlace base k.channel.path) :
    (∃ told k', k.ask base disk seconds = .ok (told, k') ∧ StaysOpen k k' ∧ Steps k k'
        ∧ k'.told = k.told ++ [told])
      ∨ ∃ fault, k.ask base disk seconds = .error (.noWait fault)
        ∧ Timeout.millis seconds = .error fault := by
  obtain ⟨old, hold⟩ := Option.isSome_iff_exists.mp hopen
  -- with a record pending there is no wait, and the pipe is not looked at
  cases hp : k.channel.inbox.pending with
  | cons record rest =>
    have hreceive : OnChannel.receive seconds ⟨disk, base, k.channel⟩ = _ :=
      OnChannel.run_receive_of_pending seconds (s := ⟨disk, base, k.channel⟩) hp
    have hfinds : k.channel.finds disk = [] := by simp [Channel.finds, hp]
    refine .inl ⟨_, _, ?_, ⟨?_, ?_⟩, Steps.told (k := k)
      (c := { k.channel with inbox := k.channel.inbox.tell.2 }) (by simp [hp]) rfl, rfl⟩
    · rw [ask, hreceive, hfinds, List.append_nil]
    · rfl
    · exact hopen
  | nil =>
    cases hmillis : Timeout.millis seconds with
    | error fault =>
      have hreceive : OnChannel.receive seconds ⟨disk, base, k.channel⟩ = _ :=
        OnChannel.run_receive_of_nothing (s := ⟨disk, base, k.channel⟩) hp hopen
      refine .inr ⟨fault, ?_, rfl⟩
      rw [ask, hreceive, hmillis]
    | ok thousandths =>
      obtain ⟨a, d, r, hlook, d', hread⟩ :=
        OnChannel.run_look (s := ⟨disk, base, k.channel⟩) hold hplace
      have htaken : Timeout.isTaken seconds = true := by
        rw [Timeout.isTaken, hmillis]
        rfl
      have hreceive : OnChannel.receive seconds ⟨disk, base, k.channel⟩ = _ :=
        OnChannel.run_receive_of_look (s := ⟨disk, base, k.channel⟩) hp hopen htaken hlook
      have hfinds : k.channel.finds disk = [a] := by simp [Channel.finds, hp, hold, hread]
      refine .inl ⟨_, _, ?_, ⟨?_, ?_⟩, Steps.looked (k := k) (a := a)
        (c := { k.channel with reader := some r, inbox := (k.channel.inbox.accept a).tell.2 })
        hp rfl, rfl⟩
      · rw [ask, hreceive, hfinds]
      · rfl
      · rfl

/-- What is found does not depend on how long the wait may be, as long as the system takes it. -/
theorem ask_congr {seconds seconds' : Binary64} (htaken : Timeout.isTaken seconds)
    (htaken' : Timeout.isTaken seconds') :
    k.ask base disk seconds = k.ask base disk seconds' := by
  rw [ask, ask, OnChannel.receive_congr htaken htaken']

/-- With the pipe in its place, a turn of an open channel succeeds, and leaves the channel open. -/
theorem turn_of_inPlace {t : Turn} (hopen : k.channel.reader.isSome)
    (hplace : t.disk.InPlace base k.channel.path) :
    ∃ k', k.turn base t = .ok k' ∧ StaysOpen k k' ∧ Steps k k' := by
  cases t with
  | reopen disk =>
    obtain ⟨k', hreopened, hopen', hsteps, -⟩ := reopened_of_inPlace hopen hplace
    exact ⟨k', hreopened, hopen', hsteps⟩
  | receive disk seconds =>
    have hhere : disk.InPlace base k.channel.path := hplace
    rcases ask_of_inPlace seconds hopen hhere with
      ⟨told, k', hask, hopen', hsteps, -⟩ | ⟨fault, hask, -⟩
    · refine ⟨k', ?_, hopen', hsteps⟩
      rw [turn, hask]
    · refine ⟨k, ?_, ⟨rfl, hopen⟩, .refused⟩
      rw [turn, hask]

end InPlace

/-! ## What turns preserve -/

/-- What was told and what is pending is what the inbox makes of all that was found; and once the
    end of the input was found, nothing is pending. -/
structure Sound (k : Course) : Prop where
  total : Inbox.withTold k.told.reduceOption k.channel.inbox = Inbox.after k.reads
  flushed : k.reads.getLast? = some .hangUp → k.channel.inbox.pending = []

theorem sound_of_fresh {c : Channel} (hfresh : c.inbox = {}) : Sound { channel := c } where
  total := hfresh
  flushed := fun _ => by rw [hfresh]

/-- At the end of the input one record is left at most, and it is told at once. -/
theorem pending_tell_finish {i : Inbox} (h : i.pending = []) : i.finish.tell.2.pending = [] := by
  cases hall : i.buffer.all Text.isBlank with
  | true => simp [Inbox.finish, Inbox.records, Inbox.tell, Inbox.take?, h, hall]
  | false => simp [Inbox.finish, Inbox.records, Inbox.tell, Inbox.take?, h, hall]

theorem Sound.step {k k' : Course} (h : Sound k) (hstep : Steps k k') : Sound k' := by
  obtain ⟨htotal, hflushed⟩ := h
  cases hstep with
  | refused => exact ⟨htotal, hflushed⟩
  | reopened hinbox => exact ⟨by rwa [hinbox], by rwa [hinbox]⟩
  | told hpending hinbox =>
    -- a record goes over from what is pending to what was told
    refine ⟨?_, fun hlast => absurd (hflushed hlast) hpending⟩
    rw [List.reduceOption_append, List.reduceOption_singleton, hinbox, Inbox.withTold_tell, htotal]
  | @looked c a hpending hinbox =>
    constructor
    · rw [List.reduceOption_append, List.reduceOption_singleton, hinbox, Inbox.withTold_tell,
        Inbox.after_append_singleton, ← htotal, Inbox.accept_withTold]
    · intro hlast
      obtain rfl : a = .hangUp := by simpa using hlast
      rw [hinbox]
      exact pending_tell_finish hpending

/-- With the pipe in its place at every turn, any turns of an open channel succeed and keep it
    sound. -/
theorem run_of_inPlace {base : Location} {turns : List Turn} {k : Course}
    (hopen : k.channel.reader.isSome) (hsound : Sound k)
    (hplace : ∀ t ∈ turns, t.disk.InPlace base k.channel.path) :
    ∃ k', run base turns k = .ok k' ∧ k'.channel.path = k.channel.path
      ∧ k'.channel.reader.isSome ∧ Sound k' := by
  induction turns generalizing k with
  | nil => exact ⟨k, rfl, rfl, hopen, hsound⟩
  | cons t turns ih =>
    obtain ⟨k₁, hturn, ⟨hpath, hopen₁⟩, hstep⟩ := turn_of_inPlace hopen (hplace t List.mem_cons_self)
    obtain ⟨k₂, hrun, hpath₂, hopen₂, hsound₂⟩ := ih hopen₁ (hsound.step hstep)
      fun u hu => hpath ▸ hplace u (.tail _ hu)
    refine ⟨k₂, ?_, hpath₂.trans hpath, hopen₂, hsound₂⟩
    rw [run, List.foldlM_cons, hturn]
    exact hrun

/-! ## Up to the end of the input -/

/-- Whatever the cuts, the waits in vain and the openings between them: up to the end of the input
    an open channel tells the records that the octets hold, and then starts afresh. -/
theorem tells_what_octets_say (base : Location) (c : Channel) (turns : List Turn)
    (hopen : c.reader.isSome) (hfresh : c.inbox = {})
    (hplace : ∀ t ∈ turns, t.disk.InPlace base c.path) :
    ∃ k, run base turns { channel := c } = .ok k ∧
      ∀ body, k.reads = body ++ [.hangUp] → .hangUp ∉ body →
        (∀ records, Inbox.Says (Inbox.octetsOf body) records ↔ k.told.reduceOption = records)
        ∧ k.channel.inbox = {} ∧ k.channel.reader.isSome := by
  obtain ⟨k, hrun, -, hopen', htotal, hflushed⟩ :=
    run_of_inPlace (k := { channel := c }) hopen (sound_of_fresh hfresh) hplace
  refine ⟨k, hrun, ?_⟩
  intro body hreads hbody
  have hpending : k.channel.inbox.pending = [] := hflushed (by simp [hreads])
  rw [hreads, Inbox.after_append_singleton, Inbox.after_of_no_hangUp hbody] at htotal
  have hend := Inbox.finish_ofOctets (Inbox.octetsOf body)
  change (Inbox.ofOctets (Inbox.octetsOf body)).accept .hangUp = _ at hend
  rw [hend, Inbox.withTold, Inbox.mk.injEq, hpending, List.append_nil] at htotal
  obtain ⟨hdecoder, hbuffer, htold⟩ := htotal
  refine ⟨?_, ?_, hopen'⟩
  · intro records
    rw [Inbox.says_iff, htold]
  · show k.channel.inbox = ⟨{}, [], []⟩
    rw [← hdecoder, ← hbuffer, ← hpending]

/-! A character is cut, the channel is opened anew within it, and octets follow that are no
    character. -/

/-- A disk with nothing but a pipe, which has been opened for writing once. -/
def pipeDisk (octets : List UInt8) (writers : Nat) : Disk where
  entries := [(["p"], .pipe 0)]
  pipes := [{ queue := octets, readers := 1, writers, openings := 1 }]

/-- A channel of that pipe. -/
def pipeChannel : Channel := { path := Path.ofString "/p", reader := some ⟨0, 0⟩ }

theorem pipeDisk_inPlace (octets : List UInt8) (writers : Nat) :
    (pipeDisk octets writers).InPlace [] pipeChannel.path := by
  have hpath : pipeChannel.path.toString = "/p" := by decide
  have hlocate : (pipeDisk octets writers).locate [] pipeChannel.path = .ok ["p"] := rfl
  refine ⟨0, ?_⟩
  simp only [Disk.entryAt?, hpath, hlocate]
  simp [pipeDisk, Disk.find?]

theorem openReader_pipeDisk (octets : List UInt8) (writers : Nat) :
    OnDisk.openReader [] pipeChannel.path (pipeDisk octets writers)
      = .ok ⟨0, if writers = 0 then 1 else 0⟩ {
          entries := [(["p"], .pipe 0)]
          pipes := [{ queue := octets, readers := 2, writers, openings := 1 }] } := by
  have hpath : pipeChannel.path.toString = "/p" := by decide
  have hl : (pipeDisk octets writers).locate [] pipeChannel.path = .ok ["p"] := rfl
  have hlocate : (OnDisk.locate [] pipeChannel.path).run (pipeDisk octets writers)
      = .ok ["p"] (pipeDisk octets writers) := by
    simp [OnDisk.locate, hpath, EStateM.run_bind, hl]
  show (OnDisk.openReader [] pipeChannel.path).run _ = _
  simp only [OnDisk.openReader, EStateM.run_bind, hlocate]
  rfl

/-- Opening the channel of a pipe anew gives it another end of the same pipe. -/
theorem reopen_pipeDisk (octets : List UInt8) (writers : Nat) (inbox : Inbox) :
    OnChannel.reopen ⟨pipeDisk octets writers, [], { pipeChannel with inbox }⟩
      = .ok () ⟨pipeDisk octets writers, [],
          { pipeChannel with inbox, reader := some ⟨0, if writers = 0 then 1 else 0⟩ }⟩ := by
  show OnChannel.reopen.run _ = _
  simp only [OnChannel.reopen, EStateM.run_bind, EStateM.run_get, pipeChannel]
  rw [OnChannel.run_onDisk (openReader_pipeDisk octets writers)]
  rfl

/-- The last look at that pipe finds the end of the input. -/
theorem receive_pipeDisk {seconds : Binary64} {inbox : Inbox} (hpending : inbox.pending = [])
    (htaken : Timeout.isTaken seconds) :
    OnChannel.receive seconds ⟨pipeDisk [] 0, [], { pipeChannel with inbox }⟩
      = .ok inbox.finish.tell.1 ⟨pipeDisk [] 0, [],
          { pipeChannel with reader := some ⟨0, 1⟩, inbox := inbox.finish.tell.2 }⟩ := by
  have hread : OnDisk.read ⟨0, 0⟩ Channel.readSize (pipeDisk [] 0)
      = .ok .hangUp (pipeDisk [] 0) := rfl
  have hlook : OnChannel.look.run ⟨pipeDisk [] 0, [], { pipeChannel with inbox }⟩
      = .ok () ⟨pipeDisk [] 0, [],
          { pipeChannel with reader := some ⟨0, 1⟩, inbox := inbox.finish }⟩ := by
    simp only [OnChannel.look, EStateM.run_bind, EStateM.run_get, pipeChannel]
    rw [OnChannel.run_onDisk hread]
    exact reopen_pipeDisk [] 0 inbox.finish
  exact OnChannel.run_receive_of_look hpending rfl htaken hlook

/-- Turns that find a character in two parts, with a separator and a broken text after it; one of
    the waits between them is none. -/
def cutTurns : List Turn := [
  .receive (pipeDisk [0x61, 0xE2, 0x82] 1),
  .reopen (pipeDisk [] 1),
  .receive (pipeDisk [0xAC] 1) .nan,
  .receive (pipeDisk [0xAC, 0x1E, 0xED, 0xA0, 0x62] 1),
  .receive (pipeDisk [] 0)]

theorem tells_cut_records :
    pipeChannel.reader.isSome ∧ pipeChannel.inbox = {}
    ∧ (∀ t ∈ cutTurns, t.disk.InPlace [] pipeChannel.path)
    ∧ ∃ k, run [] cutTurns { channel := pipeChannel } = .ok k
      ∧ Inbox.Says [0x61, 0xE2, 0x82, 0xAC, 0x1E, 0xED, 0xA0, 0x62] ["a€", "\uFFFD\uFFFDb"]
      ∧ k.told.reduceOption = ["a€", "\uFFFD\uFFFDb"] ∧ k.channel.inbox = {} := by
  have hplace : ∀ t ∈ cutTurns, t.disk.InPlace [] pipeChannel.path := by
    intro t ht
    simp only [cutTurns, List.mem_cons, List.not_mem_nil, or_false] at ht
    rcases ht with rfl | rfl | rfl | rfl | rfl <;> exact pipeDisk_inPlace _ _
  obtain ⟨k, hrun, hsays⟩ := tells_what_octets_say [] pipeChannel cutTurns rfl rfl hplace
  have hk : run [] cutTurns { channel := pipeChannel } = .ok {
      channel := { pipeChannel with reader := some ⟨0, 1⟩ }
      reads := [.octets [0x61, 0xE2, 0x82], .octets [0xAC, 0x1E, 0xED, 0xA0, 0x62], .hangUp]
      told := [none, some "a€", some "\uFFFD\uFFFDb"] } := by
    have hreopen : ∀ inbox reads told,
        turn [] ⟨{ pipeChannel with inbox }, reads, told⟩ (.reopen (pipeDisk [] 1))
          = .ok ⟨{ pipeChannel with inbox }, reads, told⟩ := by
      intro inbox reads told
      rw [turn, reopened, reopen_pipeDisk]
      rfl
    have hlast : ∀ inbox reads told, inbox.pending = [] →
        turn [] ⟨{ pipeChannel with inbox }, reads, told⟩ (.receive (pipeDisk [] 0))
          = .ok ⟨{ pipeChannel with reader := some ⟨0, 1⟩, inbox := inbox.finish.tell.2 },
              reads ++ [.hangUp], told ++ [inbox.finish.tell.1]⟩ := by
      intro inbox reads told hpending
      rw [turn, ask, receive_pipeDisk hpending (by decide)]
      simp only [Channel.finds, hpending]
      rfl
    have hfirst : turn [] { channel := pipeChannel } (.receive (pipeDisk [0x61, 0xE2, 0x82] 1))
        = .ok ⟨{ pipeChannel with inbox := { decoder := ⟨[0xE2, 0x82]⟩, buffer := ['a'] } },
            [.octets [0x61, 0xE2, 0x82]], [none]⟩ := rfl
    rw [run, cutTurns, List.foldlM_cons, hfirst]
    show List.foldlM (turn []) _ _ = _
    rw [List.foldlM_cons, hreopen]
    show (turn [] _ (.receive (pipeDisk [] 0)) >>= pure) = _
    rw [hlast _ _ _ rfl]
    rfl
  rw [hrun, Except.ok.injEq] at hk
  subst hk
  obtain ⟨hrecords, hinbox, -⟩ :=
    hsays [.octets [0x61, 0xE2, 0x82], .octets [0xAC, 0x1E, 0xED, 0xA0, 0x62]] rfl (by decide)
  exact ⟨rfl, rfl, hplace, _, hrun, (hrecords _).mpr rfl, rfl, hinbox⟩

end Course

end CallExcerpt
