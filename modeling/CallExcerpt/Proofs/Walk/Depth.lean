import CallExcerpt.Proofs.Walk.Justified

/-! # What a bound on the depth hides

    A walk expands a symbol once, at the depth at which it first comes upon it.
    If that is the greatest depth, the walk does not go on from the symbol, and
    not later either, when a shorter way leads there. So a symbol may be missing
    although a path within the bound leads to it, and a greater bound may take a
    member away. A symbol that the walk first comes upon earlier hides nothing.

    * `Way`: a path by the symbols on it.
    * `CutShort`: the walk came upon a symbol at the greatest depth.
    * `Grows.lies_unique`: a symbol that is expanded lies at one depth.
    * `mem_members_within`: the members of an excerpt with a bound are what ways
      within it lead to that pass no symbol cut short.
-/

namespace CallExcerpt.Walk

variable {g : Graph} {plan : Plan} {screen : Screen}

/-! ## Ways -/

/-- The symbols after the first one on a path that a walk may take, to the last one. -/
def Way (g : Graph) (plan : Plan) (screen : Screen) (root : String) (way : List String)
    (name : String) : Prop :=
  List.IsChain (Passage g plan screen) (root :: way) ∧ (root :: way).getLast? = some name

/-- Some arrows, as many as the greatest depth, lead from the root to the symbol. -/
def CutShort (arrows : List Arrow) (root : String) (bound : Nat) (name : String) : Prop :=
  ∃ chain, Forest.Chain arrows root name chain ∧ chain.length = bound

theorem Way.cons {root next name : String} {way : List String}
    (hfirst : Passage g plan screen root next) (h : Way g plan screen next way name) :
    Way g plan screen root (next :: way) name :=
  ⟨List.isChain_cons_cons.mpr ⟨hfirst, h.1⟩, by rw [List.getLast?_cons_cons]; exact h.2⟩

/-- A chain of arrows that are passages is a way. -/
theorem way_of_chain {arrows : List Arrow} {source name : String} {chain : List Arrow}
    (hpassage : ∀ a ∈ arrows, Passage g plan screen a.source a.target)
    (h : Forest.Chain arrows source name chain) :
    Way g plan screen source (chain.map (·.target)) name ∧
      (source :: chain.map (·.target)).dropLast = chain.map (·.source) := by
  induction h with
  | single ha => exact ⟨.cons (hpassage _ ha) ⟨by simp, rfl⟩, rfl⟩
  | @cons a goal chain ha hc ih =>
    obtain ⟨hway, hsources⟩ := ih
    refine ⟨hway.cons (hpassage _ ha), ?_⟩
    rw [List.map_cons, List.dropLast_cons_of_ne_nil (by simp), hsources]
    rfl

/-! ## Where a symbol lies -/

section lies
variable {visited : List String} {name : String} {depth : Nat} {pending : List Call}
  {forest : Forest} {after : List String}

/-- A symbol that is expanded lies at one depth: no arrow ends there afterwards. -/
theorem Grows.lies_unique (h : Grows g plan screen visited name depth pending forest after)
    {n : String} (hgo : goesOn g plan screen n = true) {few many : Nat}
    (hfew : forest.Lies name (few + 1) n) (hmany : forest.Lies name (many + 1) n) :
    few = many := by
  induction h generalizing few many with
  | nil => exact absurd hfew (Forest.not_lies_nil _ _ _)
  | pass _ _ ih => exact ih hfew hmany
  | @tip _ name _ call child _ rest _ _ hg _ ih =>
    -- the walk does not go on from the child, so that it is another symbol
    have hbeside : ∀ {deep},
        (Forest.branch (arrowOf plan name child.name call) .nil rest).Lies name (deep + 1) n →
          rest.Lies name (deep + 1) n := by
      intro deep hl
      rcases Forest.lies_branch.mp hl with ⟨-, rfl⟩ | ⟨_, -, hnil⟩ | hrest
      · exact absurd (hg.symm.trans hgo) (by simp)
      · exact absurd hnil (Forest.not_lies_nil _ _ _)
      · exact hrest
    exact ih (hbeside hfew) (hbeside hmany)
  | @enter visited name _ call child _ below _ rest _ hm _ hbelow hrest ihb ihr =>
    by_cases hchild : child.name = n
    · -- nothing below the child or beside it ends there again
      subst hchild
      have hfirst : ∀ {deep},
          (Forest.branch (arrowOf plan name child.name call) below rest).Lies name (deep + 1)
            child.name → deep = 0 := by
        intro deep hl
        have hin : child.name ∈ visited ++ [child.name] := by simp
        rcases Forest.lies_branch.mp hl with ⟨hzero, -⟩ | ⟨_, -, hl⟩ | hl
        · exact hzero
        · exact absurd hl.ends (hbelow.not_ends hin)
        · exact absurd hl.ends (hrest.not_ends (hbelow.visited_subset _ hin))
      rw [hfirst hfew, hfirst hmany]
    · -- what ends below the child is expanded there, and no arrow beside it ends there
      have hapart : below.Ends n → ¬ rest.Ends n := by
        intro hends
        exact hrest.not_ends (hbelow.expanded_of_ends hends hgo)
      rcases Forest.lies_branch.mp hfew with ⟨-, h⟩ | ⟨_, rfl, hf⟩ | hf
      · exact absurd h hchild
      · rcases Forest.lies_branch.mp hmany with ⟨-, h⟩ | ⟨_, rfl, hm⟩ | hm
        · exact absurd h hchild
        · rw [ihb hf hm]
        · exact absurd hm.ends (hapart hf.ends)
      · rcases Forest.lies_branch.mp hmany with ⟨-, h⟩ | ⟨_, rfl, hm⟩ | hm
        · exact absurd h hchild
        · exact absurd hf.ends (hapart hm.ends)
        · exact ihr hf hm

end lies

/-! ## From the root -/

section root
variable {root : String} {pending : List Call} {forest : Forest} {after : List String}

/-- So does the root, at which no arrow ends. -/
theorem Grows.lies_unique_from_root (h : Grows g plan screen [root] root 0 pending forest after)
    {n : String} (hgo : goesOn g plan screen n = true) {few many : Nat}
    (hfew : forest.Lies root few n) (hmany : forest.Lies root many n) : few = many := by
  have hnever : ∀ {depth}, ¬ forest.Lies root (depth + 1) root :=
    fun hl => h.not_ends (by simp) hl.ends
  cases few with
  | zero =>
    obtain rfl : n = root := hfew
    cases many with
    | zero => rfl
    | succ many => exact absurd hmany hnever
  | succ few =>
    cases many with
    | zero =>
      obtain rfl : n = root := hmany
      exact absurd hfew hnever
    | succ many => rw [h.lies_unique hgo hfew hmany]

/-- A chain from the root leads as deep as it is long: each of its arrows begins at a symbol that is
    expanded, which lies at one depth. -/
theorem Grows.lies_of_chain (h : Grows g plan screen [root] root 0 pending forest after)
    (hpassage : ∀ a ∈ forest.arrows, Passage g plan screen a.source a.target)
    {source name : String} {chain : List Arrow} {depth : Nat}
    (hsource : forest.Lies root depth source)
    (hc : Forest.Chain forest.arrows source name chain) :
    forest.Lies root (depth + chain.length) name := by
  have hstep : ∀ {a depth}, a ∈ forest.arrows → forest.Lies root depth a.source →
      forest.Lies root (depth + 1) a.target := by
    intro a depth ha hl
    obtain ⟨there, hlayer⟩ := Forest.mem_arrows_iff.mp ha
    obtain rfl : depth = there :=
      h.lies_unique_from_root (hpassage a ha).goesOn hl (h.hangs.source_lies hlayer)
    exact ⟨a, hlayer, rfl⟩
  induction hc generalizing depth with
  | single ha => exact hstep ha hsource
  | cons ha _ ih =>
    have hrest := ih (hstep ha hsource)
    rwa [Nat.add_assoc, Nat.add_comm 1] at hrest

end root

/-! ## What is hidden, and what is not -/

section bound
variable {root : String} {bound : Nat} {forest : Forest} {after : List String}

theorem relationsAt_of_lt {name : String} {depth : Nat} {bound : Int}
    (hbound : plan.maxDepth = some bound) (h : (depth : Int) < bound) :
    relationsAt g plan name depth = g.relations plan.direction name := by
  rw [relationsAt, hbound]
  exact if_neg (by omega)

/-- A passage from a symbol that is met and not cut short leads to one that is met. -/
theorem Grows.ends_of_passage
    (h : Grows g plan screen [root] root 0 (rootCalls g plan screen root) forest after)
    (hbound : plan.maxDepth = some (bound : Int)) (hpositive : 0 < bound) {n m : String}
    (hn : n = root ∨ forest.Ends n) (hclear : ¬ CutShort forest.arrows root bound n)
    (hm : Passage g plan screen n m) : m = root ∨ forest.Ends m := by
  by_cases hroot : n = root
  · subst hroot
    have hcalls : rootCalls g plan screen n = g.relations plan.direction n := by
      rw [rootCalls, hm.hidden]
      exact relationsAt_of_lt hbound (by omega)
    exact (h.closed_at hcalls hm).imp_left List.mem_singleton.mp
  · have hends := hn.resolve_left hroot
    have hafter : n ∈ after := h.expanded_of_ends hends hm.goesOn
    have hfresh : n ∉ [root] := by simpa using hroot
    refine (h.closed hafter hfresh ?_ hm).imp_left List.mem_singleton.mp
    intro below hlies
    -- the arrows above make a chain, which is shorter than the bound
    obtain ⟨a, hlayer, rfl⟩ := hlies
    obtain ⟨chain, hchain, -, hlength⟩ := Forest.chain_of_mem_layer h.hangs hlayer
    have hlt := h.lies_bound_of_root hbound ⟨a, hlayer, rfl⟩
    have hne : below + 1 ≠ bound := fun heq => hclear ⟨chain, hchain, hlength.trans heq⟩
    exact relationsAt_of_lt hbound (by omega)

/-- So does a way that passes no symbol cut short. -/
theorem Grows.ends_of_way
    (h : Grows g plan screen [root] root 0 (rootCalls g plan screen root) forest after)
    (hbound : plan.maxDepth = some (bound : Int)) (hpositive : 0 < bound) {n name : String}
    {way : List String} (hn : n = root ∨ forest.Ends n) (hway : Way g plan screen n way name)
    (hclear : ∀ m ∈ (n :: way).dropLast, ¬ CutShort forest.arrows root bound m) :
    name = root ∨ forest.Ends name := by
  obtain ⟨hsteps, hlast⟩ := hway
  induction way generalizing n with
  | nil =>
    obtain rfl : n = name := by simpa using hlast
    exact hn
  | cons next way ih =>
    obtain ⟨hfirst, hrest⟩ := List.isChain_cons_cons.mp hsteps
    rw [List.getLast?_cons_cons] at hlast
    rw [List.dropLast_cons_of_ne_nil (by simp)] at hclear
    have hnext := h.ends_of_passage hbound hpositive hn (hclear n (.head _)) hfirst
    exact ih hnext (fun m hm => hclear m (.tail _ hm)) hrest hlast

/-- An arrow ends at a symbol if and only if a way within the bound leads there that passes no
    symbol cut short. -/
theorem ends_iff_way (hbound : plan.maxDepth = some (bound : Int)) (hgoal : plan.goal ≠ some root)
    (h : Grows g plan screen [root] root 0 (rootCalls g plan screen root) forest after)
    {name : String} (hne : name ≠ root) :
    forest.Ends name ↔ ∃ way, Way g plan screen root way name ∧ way.length ≤ bound ∧
      ∀ n ∈ (root :: way).dropLast, ¬ CutShort forest.arrows root bound n := by
  constructor
  · intro hends
    have hpassage := h.passage_of_root hgoal
    obtain ⟨depth, a, hlayer, rfl⟩ := hends.lies root
    obtain ⟨chain, hchain, -, hlength⟩ := Forest.chain_of_mem_layer h.hangs hlayer
    obtain ⟨hway, hsources⟩ := way_of_chain hpassage hchain
    have hdepth := h.lies_bound_of_root hbound ⟨a, hlayer, rfl⟩
    refine ⟨chain.map (·.target), hway, by rw [List.length_map]; omega, ?_⟩
    rw [hsources]
    rintro _ hn ⟨other, hother, hbeyond⟩
    obtain ⟨b, hb, rfl⟩ := List.mem_map.mp hn
    have hmem := hchain.subset b hb
    -- an arrow of the chain begins above the bound, so that no chain to there is as long
    obtain ⟨there, hthere⟩ := Forest.mem_arrows_iff.mp hmem
    have habove := h.lies_bound_of_root hbound ⟨b, hthere, rfl⟩
    have hstart : forest.Lies root 0 root := rfl
    have hdeep := h.lies_of_chain hpassage hstart hother
    have hsame := h.lies_unique_from_root (hpassage b hmem).goesOn hdeep
      (h.hangs.source_lies hthere)
    omega
  · rintro ⟨way, hway, hlength, hclear⟩
    cases way with
    | nil => exact absurd (by simpa using hway.2) hne.symm
    | cons next way =>
      have hpositive : 0 < bound := by
        rw [List.length_cons] at hlength
        omega
      exact (h.ends_of_way hbound hpositive (.inl rfl) hway hclear).resolve_left hne

/-- A way within the bound passes no symbol cut short if no other way to a symbol on it is as long
    as the bound. -/
theorem Grows.not_cutShort
    (h : Grows g plan screen [root] root 0 (rootCalls g plan screen root) forest after)
    (hgoal : plan.goal ≠ some root) {way : List String}
    (hshorter : ∀ n ∈ way.dropLast, ∀ long, Way g plan screen root long n → long.length ≠ bound) :
    ∀ n ∈ (root :: way).dropLast, ¬ CutShort forest.arrows root bound n := by
  rintro n hn ⟨chain, hchain, hlength⟩
  by_cases hroot : n = root
  · subst hroot
    exact h.not_ends (by simp) hchain.ends
  · have hmem : n ∈ way.dropLast := by
      cases way with
      | nil => cases hn
      | cons next way =>
        rw [List.dropLast_cons_of_ne_nil (by simp)] at hn
        exact (List.mem_cons.mp hn).resolve_left hroot
    obtain ⟨hway, -⟩ := way_of_chain (h.passage_of_root hgoal) hchain
    exact hshorter n hmem _ hway (by rw [List.length_map, hlength])

end bound

/-! ## Members -/

theorem passage_withDepth (maxDepth : Option Int) :
    Passage g { plan with maxDepth } screen = Passage g plan screen := by
  funext source target
  refine propext ⟨?_, ?_⟩
  · rintro ⟨hhidden, honward, hleads, hin⟩
    exact ⟨hhidden, honward, hleads, hin⟩
  · rintro ⟨hhidden, honward, hleads, hin⟩
    exact ⟨hhidden, honward, hleads, hin⟩

/-- Without a goal an extraction succeeds, and its members are the root and what its arrows end
    at. -/
theorem exists_excerpt (g : Graph) (plan : Plan) (desk : Desk) {root : String}
    (hroot : g.contains root = true) (hgoal : plan.goal = none) :
    ∃ w forest after,
      Grows g plan desk.screen [root] root 0 (rootCalls g plan desk.screen root) forest after ∧
      extract g plan root desk = .ok w w.toDesk ∧
      w.sheet.toList = desk.sheet.toList ++ forest.arrows ∧
      ∀ name, name ∈ w.tally.members ↔ name = root ∨ forest.Ends name := by
  obtain ⟨forest, after, hgrows⟩ := exists_grows g plan desk.screen [root] root 0
    (rootCalls g plan desk.screen root)
  obtain ⟨w, hextract, hmembers⟩ := extract_members hroot hgoal hgrows
  obtain ⟨w', hsheet, -, hextract'⟩ := extract_of_grows hroot hgrows
  rw [hgoal] at hsheet hextract'
  rw [Forest.kept_none] at hsheet
  obtain rfl : w = w' := by
    rw [hextract] at hextract'
    cases hextract'
    rfl
  exact ⟨w, forest, after, hgrows, hextract, hsheet, hmembers⟩

/-- Without a goal, and with a bound on the depth, an extraction succeeds. Its members besides the
    root are what ways within the bound lead to that pass no symbol to which as many arrows lead as
    the bound allows; in particular what a way leads to such that no other way to a symbol on it is
    as long as the bound. So another bound takes a member away only where it cuts short a symbol on
    each way within that bound; and no bound at all takes none away. -/
theorem mem_members_within (g : Graph) (plan : Plan) (root : String) (desk : Desk) (bound : Nat)
    (hroot : g.contains root = true) (hbound : plan.maxDepth = some (bound : Int))
    (hgoal : plan.goal = none) :
    ∃ w own, extract g plan root desk = .ok w w.toDesk ∧
      w.sheet.toList = desk.sheet.toList ++ own ∧ root ∈ w.tally.members ∧
      (∀ name, name ≠ root → (name ∈ w.tally.members ↔
        ∃ way, Way g plan desk.screen root way name ∧ way.length ≤ bound ∧
          ∀ n ∈ (root :: way).dropLast, ¬ CutShort own root bound n)) ∧
      (∀ name way, Way g plan desk.screen root way name → way.length ≤ bound →
        (∀ n ∈ way.dropLast, ∀ long, Way g plan desk.screen root long n → long.length ≠ bound) →
        name ∈ w.tally.members) ∧
      (∀ other : Nat,
        ∃ w' own', extract g { plan with maxDepth := some (other : Int) } root desk
            = .ok w' w'.toDesk ∧
          w'.sheet.toList = desk.sheet.toList ++ own' ∧
          ∀ name ∈ w.tally.members, name ∈ w'.tally.members ∨
            ∀ way, Way g plan desk.screen root way name → way.length ≤ other →
              ∃ n ∈ (root :: way).dropLast, CutShort own' root other n) ∧
      ∃ w', extract g { plan with maxDepth := none } root desk = .ok w' w'.toDesk ∧
        ∀ name ∈ w.tally.members, name ∈ w'.tally.members := by
  have hngoal : ∀ maxDepth, ({ plan with maxDepth } : Plan).goal ≠ some root := by
    intro maxDepth
    simp [hgoal]
  obtain ⟨w, forest, after, hgrows, hextract, hsheet, hmembers⟩ :=
    exists_excerpt g plan desk hroot hgoal
  refine ⟨w, forest.arrows, hextract, hsheet, (hmembers root).mpr (.inl rfl), ?_, ?_, ?_, ?_⟩
  · intro name hne
    rw [hmembers, or_iff_right hne]
    exact ends_iff_way hbound (hngoal _) hgrows hne
  · intro name way hway hlength hshorter
    rw [hmembers]
    by_cases hne : name = root
    · exact .inl hne
    · have hclear := hgrows.not_cutShort (hngoal _) hshorter
      exact .inr ((ends_iff_way hbound (hngoal _) hgrows hne).mpr ⟨way, hway, hlength, hclear⟩)
  · intro other
    obtain ⟨w', forest', after', hgrows', hextract', hsheet', hmembers'⟩ :=
      exists_excerpt g { plan with maxDepth := some (other : Int) } desk hroot hgoal
    refine ⟨w', forest'.arrows, hextract', hsheet', ?_⟩
    intro name _
    rw [hmembers']
    by_cases hne : name = root
    · exact .inl (.inl hne)
    · rw [or_iff_right hne, ends_iff_way rfl (hngoal (some (other : Int))) hgrows' hne,
        or_iff_not_imp_left]
      intro hmissing way hway hlength
      refine Classical.byContradiction fun hclear => hmissing ⟨way, ?_, hlength, ?_⟩
      · rw [Way, passage_withDepth]
        exact hway
      · intro n hn hcut
        exact hclear ⟨n, hn, hcut⟩
  · obtain ⟨w', forest', after', hgrows', hextract', hsheet', hmembers'⟩ :=
      exists_excerpt g { plan with maxDepth := none } desk hroot hgoal
    refine ⟨w', hextract', ?_⟩
    intro name hname
    rw [hmembers] at hname
    rw [hmembers']
    by_cases hne : name = root
    · exact .inl hne
    · rw [or_iff_right hne, ends_iff_path rfl (hngoal none) hgrows' hne, Path, passage_withDepth]
      exact hgrows.hangs.transGen (hgrows.passage_of_root (hngoal _)) (hname.resolve_left hne)

/-- On a blank sheet, the members besides the root are what its arrows end at. -/
theorem mem_members_of_blank {root : String} {w : Walk} (hroot : g.contains root = true)
    (hgoal : plan.goal = none) (hextract : extract g plan root {} = .ok w w.toDesk) (name : String) :
    name ∈ w.tally.members ↔
      name ∈ root :: (deskAfter (extract g plan root {})).sheet.toList.map (·.target) := by
  obtain ⟨w', forest, -, -, hextract', hsheet, hmembers⟩ := exists_excerpt g plan {} hroot hgoal
  obtain rfl : w' = w := by
    rw [hextract] at hextract'
    cases hextract'
    rfl
  have harrows : (deskAfter (extract g plan root {})).sheet.toList = forest.arrows := by
    rw [hextract]
    exact hsheet
  rw [hmembers, harrows, List.mem_cons, List.mem_map]
  rfl

/-- A symbol with a short way and a long one that the walk takes first, and a symbol behind it. -/
def detour : Graph :=
  ((((({} : Graph).connect "a" "b" []).connect "b" "c" []).connect "c" "d" []).connect "a" "d"
    []).connect "d" "e" []

/-- Two calls lead to the symbol behind it. With a bound of two it is a member, and so it is without
    a bound. -/
theorem members_of_detour :
    ∃ w own way w', extract detour { maxDepth := some 2 } "a" {} = .ok w w.toDesk ∧
      w.sheet.toList = own ∧ "e" ∈ w.tally.members ∧
      Way detour { maxDepth := some 2 } {} "a" way "e" ∧ way.length ≤ 2 ∧
      (∀ n ∈ ("a" :: way).dropLast, ¬ CutShort own "a" 2 n) ∧
      extract detour {} "a" {} = .ok w' w'.toDesk ∧ "e" ∈ w'.tally.members := by
  obtain ⟨w, own, hextract, hsheet, -, hways, -, -, w', hextract', hkeeps⟩ :=
    mem_members_within detour { maxDepth := some 2 } "a" {} 2 (by decide) rfl rfl
  have hmem : "e" ∈ w.tally.members :=
    (mem_members_of_blank (by decide) rfl hextract "e").mpr (by decide +kernel)
  obtain ⟨way, hway, hlength, hclear⟩ := (hways "e" (by decide)).mp hmem
  exact ⟨w, own, way, w', hextract, hsheet, hmem, hway, hlength, hclear, hextract', hkeeps "e" hmem⟩

/-- With a bound of three it is missing: the long way is three calls long, and the walk does not go
    on from its end when it comes there again. -/
theorem missing_behind_detour :
    Way detour { maxDepth := some 3 } {} "a" ["d", "e"] "e" ∧
      (∃ w, extract detour { maxDepth := some 2 } "a" {} = .ok w w.toDesk ∧
        "e" ∈ w.tally.members) ∧
      ∃ w, extract detour { maxDepth := some 3 } "a" {} = .ok w w.toDesk ∧
        "e" ∉ w.tally.members := by
  have hfirst : Passage detour { maxDepth := some 3 } {} "a" "d" :=
    ⟨by decide, by decide, by decide, ⟨{ name := "d", defined := false }, by decide, by decide⟩⟩
  have hsecond : Passage detour { maxDepth := some 3 } {} "d" "e" :=
    ⟨by decide, by decide, by decide, ⟨{ name := "e", defined := false }, by decide, by decide⟩⟩
  have hroot : detour.contains "a" = true := by decide
  refine ⟨.cons hfirst (.cons hsecond ⟨by simp, rfl⟩), ?_, ?_⟩
  · obtain ⟨w, -, -, -, hextract, -⟩ :=
      exists_excerpt detour { maxDepth := some 2 } {} hroot rfl
    exact ⟨w, hextract, (mem_members_of_blank hroot rfl hextract "e").mpr (by decide +kernel)⟩
  · obtain ⟨w, -, -, -, hextract, -⟩ :=
      exists_excerpt detour { maxDepth := some 3 } {} hroot rfl
    refine ⟨w, hextract, fun hmem => ?_⟩
    have hends := (mem_members_of_blank hroot rfl hextract "e").mp hmem
    exact absurd hends (by decide +kernel)

end CallExcerpt.Walk
