import CallExcerpt.Proofs.Graph.Building
import CallExcerpt.Proofs.Graph.Sites
import CallExcerpt.Proofs.Walk.Reach

/-! # What is written beside arrows

    Every arrow is drawn for a call of the graph that leads where the arrow
    leads, and if the walk is to write places, they are those of the call where
    its own callee is meant, whichever way the walk goes.

    * `Follows`: an arrow that is drawn for a call.
    * `Grows.follows`, `follows_of_extract`: each arrow that is drawn follows a
      call.
    * `label_of_places`: what is written beside the arrows of a call with tags.
-/

namespace CallExcerpt

/-- The text of some places, one in each line; none if there is no place. -/
def Arrow.labelOf (places : List String) : Option String :=
  if places.isEmpty then none else some (Text.joinWith '\n' places)

namespace Walk

variable {g : Graph} {plan : Plan} {screen : Screen}

/-- The arrow is drawn for the call: it leads from the near end of the call to the far one, and
    what is written beside it are the places of the call, if the walk is to write places. -/
structure Follows (plan : Plan) (call : Call) (a : Arrow) : Prop where
  source : a.source = call.near plan.direction
  target : a.target = call.far plan.direction
  caller : a.caller = call.caller
  callee : a.callee = call.callee
  label : a.label
    = Arrow.labelOf (if plan.allLocations then call.locations call.callee else [])

/-- A call that is followed is one of the graph, and its arrow is drawn for it. -/
theorem follows_arrowOf {visited : List String} {call : Call} {child : Symbol} {name : String}
    (hm : Meets g plan screen visited call child)
    (hcall : call ∈ g.relations plan.direction name) :
    call ∈ g.calls ∧ Follows plan call (arrowOf plan name child.name call) := by
  obtain ⟨hmem, hnear⟩ := List.mem_filter.mp hcall
  have hfar : child.name = call.far plan.direction := Graph.name_of_find? hm.found
  exact ⟨hmem, (of_decide_eq_true hnear).symm, hfar, rfl, rfl, rfl⟩

/-- Each arrow of what grows from the calls of a symbol is drawn for a call of the graph. -/
theorem Grows.follows {visited : List String} {name : String} {depth : Nat} {pending : List Call}
    {forest : Forest} {after : List String}
    (h : Grows g plan screen visited name depth pending forest after)
    (hpending : ∀ call ∈ pending, call ∈ g.relations plan.direction name) :
    ∀ a ∈ forest.arrows, ∃ call ∈ g.calls, Follows plan call a := by
  -- the calls that are left are carried along: those of this symbol, or of the one that is entered
  induction h with
  | nil => exact List.forall_mem_nil _
  | pass _ _ ih => exact ih fun call hcall => hpending call (List.mem_cons_of_mem _ hcall)
  | tip hm _ _ ih =>
    obtain ⟨hcall, hothers⟩ := List.forall_mem_cons.mp hpending
    intro a ha
    simp only [Forest.arrows, List.nil_append, List.mem_cons] at ha
    rcases ha with rfl | ha
    · exact ⟨_, follows_arrowOf hm hcall⟩
    · exact ih hothers a ha
  | enter hm _ _ _ ihb ihr =>
    obtain ⟨hcall, hothers⟩ := List.forall_mem_cons.mp hpending
    intro a ha
    simp only [Forest.arrows, List.mem_cons, List.mem_append] at ha
    rcases ha with rfl | ha | ha
    · exact ⟨_, follows_arrowOf hm hcall⟩
    · exact ihb (relationsAt_subset _ _) a ha
    · exact ihr hothers a ha

/-- An extraction draws each of its arrows for a call of the graph. -/
theorem follows_of_extract {root : String} {desk desk' : Desk} {w : Walk}
    (hextract : extract g plan root desk = .ok w desk') :
    desk' = w.toDesk ∧ ∃ own, w.sheet.toList = desk.sheet.toList ++ own
      ∧ ∀ a ∈ own, ∃ call ∈ g.calls, Follows plan call a := by
  obtain ⟨-, -, hdesk, forest, hsheet, hgrows⟩ := grows_of_extract hextract
  refine ⟨hdesk, _, hsheet, ?_⟩
  have hroot : ∀ call ∈ rootCalls g plan desk.screen root,
      call ∈ g.relations plan.direction root := by
    intro call hcall
    rw [rootCalls] at hcall
    split at hcall
    · cases hcall
    · exact relationsAt_subset root 0 call hcall
  intro a ha
  exact hgrows.follows hroot a ((Forest.arrows_kept_sublist plan.goal forest).subset ha)

/-- The places that are tagged as calls of a symbol are told as its own, and all of them, exactly if
    no symbol that a tag of the call means holds a tilde. Then, in a graph that was built in any
    way, a walk that writes places writes beside the arrow of the call those that are tagged as
    calls of its callee, each of them and in their order, and nothing if there are none. -/
theorem label_of_places (caller callee : String) (pairs : List (String × String))
    (hplaces : ∀ p ∈ pairs, p.2 ≠ "") :
    ((∀ target, (Call.tagged caller callee pairs).locations target = Call.placesOf target pairs)
      ↔ ∀ p ∈ pairs, Call.siteSeparator ∉ p.1.toList)
    ∧ ((∀ p ∈ pairs, Call.siteSeparator ∉ p.1.toList) →
      ∀ (operations : List Store.Operation) (plan : Plan) (root : String) (desk desk' : Desk)
        (w : Walk), Call.tagged caller callee pairs ∈ (Graph.after operations).calls →
        plan.allLocations = true →
        extract (Graph.after operations) plan root desk = .ok w desk' →
        ∃ own, desk'.sheet.toList = desk.sheet.toList ++ own
          ∧ ∀ a ∈ own, a.caller = caller → a.callee = callee →
            a.label = Arrow.labelOf (Call.placesOf callee pairs)) := by
  refine ⟨Call.locations_tagged_iff caller callee hplaces, ?_⟩
  intro hclean operations plan root desk desk' w hcall hall hextract
  obtain ⟨rfl, own, hsheet, hfollows⟩ := follows_of_extract hextract
  refine ⟨own, hsheet, ?_⟩
  intro a ha hcaller hcallee
  obtain ⟨call, hmem, hfollow⟩ := hfollows a ha
  -- there is one call between the two symbols
  have hends : call.ends = (Call.tagged caller callee pairs).ends := by
    have hfirst : call.caller = caller := hfollow.caller.symm.trans hcaller
    have hlast : call.callee = callee := hfollow.callee.symm.trans hcallee
    simp [Call.ends, Call.tagged, hfirst, hlast]
  obtain rfl : call = Call.tagged caller callee pairs :=
    List.inj_on_of_nodup_map (Graph.sound_after operations).ends hmem hcall hends
  have hlocations := Call.locations_tagged caller callee hplaces hclean callee
  rw [hfollow.label, hall, if_pos rfl]
  exact congrArg Arrow.labelOf hlocations

/-- Tags of two symbols in turn, one of them at a place with a tilde: the arrow to the one that is
    called shows its own two places. -/
theorem label_of_two_places :
    let pairs := [("g", "a.c:1"), ("h", "~x/a.c:2"), ("g", "a.c:3")]
    let operations : List Store.Operation := [.connect "f" "g" ["g~a.c:1", "h~~x/a.c:2", "g~a.c:3"]]
    let plan : Plan := { allLocations := true }
    (∀ p ∈ pairs, p.2 ≠ "") ∧ (Call.tagged "f" "g" pairs).locations "h" = ["~x/a.c:2"]
      ∧ ∃ w desk' own, extract (Graph.after operations) plan "f" {} = .ok w desk'
        ∧ desk'.sheet.toList = own ∧ own.map Arrow.ends = [("f", "g")]
        ∧ ∀ a ∈ own, a.caller = "f" → a.callee = "g" → a.label = some "a.c:1\na.c:3" := by
  intro pairs operations plan
  have hplaces : ∀ p ∈ pairs, p.2 ≠ "" := by decide
  have hclean : ∀ p ∈ pairs, Call.siteSeparator ∉ p.1.toList := by decide
  obtain ⟨htold, hlabels⟩ := label_of_places "f" "g" pairs hplaces
  refine ⟨hplaces, htold.mpr hclean "h", ?_⟩
  have hsucceeds : (extract (Graph.after operations) plan "f" {} matches .ok _ _) = true := by
    decide +kernel
  have hends : (deskAfter (extract (Graph.after operations) plan "f" {})).sheet.toList.map
      Arrow.ends = [("f", "g")] := by decide +kernel
  cases hextract : extract (Graph.after operations) plan "f" {} with
  | error fault desk' =>
    rw [hextract] at hsucceeds
    cases hsucceeds
  | ok w desk' =>
    have hcall : Call.tagged "f" "g" pairs ∈ (Graph.after operations).calls := by decide
    obtain ⟨own, hsheet, hlabel⟩ :=
      hlabels hclean operations plan "f" {} desk' w hcall rfl hextract
    have hown : desk'.sheet.toList = own := hsheet
    rw [hextract] at hends
    have htext : Arrow.labelOf (Call.placesOf "g" pairs) = some "a.c:1\na.c:3" := by decide
    exact ⟨w, desk', own, rfl, hown, hown ▸ hends, fun a ha hf hg => htext ▸ hlabel a ha hf hg⟩

/-- A destructor holds a tilde. The place of a call to it is told neither as its own nor in full, and
    goes to a symbol that was not meant. -/
theorem place_of_destructor :
    let pairs := [("A::~A", "f.c:7")]
    let call := Call.tagged "main" "A::~A" pairs
    call.locations "A::~A" = [] ∧ Call.placesOf "A::~A" pairs = ["f.c:7"]
      ∧ call.locations "A::" = ["A~f.c:7"] ∧ Call.placesOf "A::" pairs = [] := by
  decide

end Walk

end CallExcerpt
