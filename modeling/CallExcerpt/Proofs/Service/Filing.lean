import CallExcerpt.Proofs.Request.Artifact
import CallExcerpt.Proofs.Service.Apart
import Mathlib.Data.List.Nodup

/-! # The files of a request

    Each root of a request has its result, and a result tells of no other
    files than those of its root. With several roots their files lie beside
    each other, and it takes the names of the roots to tell them apart.

    * `Filed`: a result with the files of its root.
    * `gives_draw`, `gives_work`, `gives_handling`: drawing one root, the roots in
      a row, a request.
    * `outputs_apart`: when the files of a request are told apart.
    * `outputs_clash`: they need not be.
-/

namespace CallExcerpt

open Success (Gives gives_pure gives_throw)

namespace Service

variable {g : Graph} {r : Request}

/-- The result of a root, with no other files than those of the root. -/
structure Filed (r : Request) (several : Bool) (name : String) (e : Excerpt) : Prop where
  root : e.root = name
  artifact : ∀ p ∈ e.artifact, Request.artifact? r.output name several = some p
  kept : ∀ p ∈ e.kept, Request.kept? r.output name several = some p

/-! ## One root -/

/-- The excerpt of a root that nobody has written yet. -/
structure Unwritten (name : String) (e : Excerpt) : Prop where
  root : e.root = name
  artifact : e.artifact = none
  kept : e.kept = none

theorem filed_of_written {several : Bool} {name : String} {e e' : Excerpt} {artifact : Path}
    (he : Unwritten name e) (hartifact : Request.artifact? r.output name several = some artifact)
    (h : e.WrittenTo artifact e') : Filed r several name e' := by
  have hkept : ∀ p, artifact.withSuffix? Request.descriptionSuffix = some p →
      Request.kept? r.output name several = some p := by
    intro p hp
    rw [Request.kept?, hartifact, Option.bind_some, hp]
  cases h with
  | printed => exact ⟨he.root, by simp [he.artifact], by simp [he.kept]⟩
  | plain => exact ⟨he.root, by simpa using hartifact, by simp [he.kept]⟩
  | drawn kept hbeside =>
    exact ⟨he.root, by simpa using hartifact, fun p hp => hkept p (hbeside p hp)⟩
  | notRendered kept hbeside message =>
    exact ⟨he.root, by simp [he.artifact], fun p hp => hkept p (hbeside p hp)⟩

theorem gives_draw (screen : Screen) (name : String) :
    Gives (draw g r screen name) fun drawn => ∀ e, drawn.1 = .ok e → Unwritten name e := by
  intro s drawn s' hrun e he
  obtain ⟨world, hdraw⟩ := draw_eq g r screen name s
  rw [hdraw] at hrun
  cases hrun
  have hroot : e.root = name := (root_of_walk he).1
  cases hwalk : (Excerpt.walk g r s.styling screen name).walk with
  | error fault =>
    rw [hwalk] at he
    cases he
  | ok w =>
    rw [hwalk] at he
    cases he
    exact ⟨hroot, rfl, rfl⟩

/-! ## Roots in a row -/

theorem gives_work (several : Bool) (place : Path) (screen : Screen) (names : List String) :
    Gives (work g r several place screen names) (List.Forall₂ (Filed r several) names) := by
  induction names generalizing screen with
  | nil => exact gives_pure .nil
  | cons name names ih =>
    refine (gives_draw screen name).bind fun drawn hdrawn => ?_
    obtain ⟨result, screen'⟩ := drawn
    have hothers : ∀ first, Filed r several name first → Gives (do
        let others ← work g r several place screen' names
        return first :: others) (List.Forall₂ (Filed r several) (name :: names)) :=
      fun first hfirst => (ih screen').bind fun others hrest => gives_pure (.cons hfirst hrest)
    cases result with
    | ok e =>
      obtain he : Unwritten name e := hdrawn e rfl
      refine (gives_onWorld (gives_write several place e)).bind fun e' hwritten => hothers e' ?_
      obtain ⟨artifact, hartifact, hto⟩ := hwritten
      exact filed_of_written he (he.root ▸ hartifact) hto
    | error fault =>
      cases fault with
      | noPath root goal takenBack =>
        refine Gives.after fun _ => (gives_pure (P := Filed r several name) ?_).bind hothers
        exact ⟨rfl, by simp [Excerpt.nothing], by simp [Excerpt.nothing]⟩
      | unknownSymbol name =>
        exact (gives_throw (P := fun _ => False) _).bind fun _ h => h.elim
      | nothingDrawn =>
        exact (gives_throw (P := fun _ => False) _).bind fun _ h => h.elim

/-! ## A request -/

theorem gives_ofExcept {ε α : Type} (failure : ε → Failure) (x : Except ε α) :
    Gives (Serving.ofExcept failure x) (x = .ok ·) :=
  fun _ _ _ hrun => (of_ofExcept hrun).1

theorem gives_withWorkplace {α : Type} {x : Path → Serving α} {P : α → Prop}
    (h : ∀ place, Gives (x place) P) : Gives (withWorkplace x) P := by
  rw [withWorkplace_eq]
  refine Gives.after fun s => Gives.after fun _ => fun s₁ a s₂ hrun => ?_
  obtain ⟨s₃, hx⟩ := of_clearing hrun
  exact h _ s₁ a s₃ hx

/-- The results of a request are those of its roots, with the files of these. -/
theorem gives_handling (g : Graph) (r : Request) (fits : String → Bool) :
    Gives (handling g r fits) fun es => ∃ names, roots g r fits = .ok names
      ∧ List.Forall₂ (Filed r (1 < names.length)) names es := by
  unfold handling
  refine Gives.after fun _ => Gives.after fun filters => ?_
  have hrooted : Gives (do
      let roots ← Serving.ofExcept id (roots g r fits)
      withWorkplace fun place => work g r (1 < roots.length) place { filters } roots)
      fun es => ∃ names, roots g r fits = .ok names
        ∧ List.Forall₂ (Filed r (1 < names.length)) names es := by
    refine (gives_ofExcept id _).bind fun names hnames => gives_withWorkplace fun place => ?_
    exact (gives_work _ place _ names).mono fun es hes => ⟨names, hnames, hes⟩
  cases r.goal with
  | none => exact hrooted
  | some goal => exact Gives.after fun _ => hrooted

/-- When the files of a request with several roots are told apart. Each root has an artifact beside
    the output, and the artifacts differ just if the names of the roots do, once they are fit for a
    file name. The descriptions that are kept differ from each other and from all artifacts under no
    more than that, if the output has a suffix. If it has none, and no dot at its end that may pass
    for the beginning of one, the names must still differ once they lose what looks like a suffix,
    and none may be what another one's description is called. The results tell of no other files. -/
theorem outputs_apart (r : Request) (hvalid : r.validate = .ok ()) (hdash : r.output ≠ Path.dash)
    (hname : r.output.name ≠ "") (names : List String) :
    ∃ artifacts kept : List Path,
      names.map (Request.artifact? r.output · true) = artifacts.map some
      ∧ names.map (Request.kept? r.output · true) = kept.map some
      ∧ (artifacts.Nodup ↔ (names.map Request.safeName).Nodup)
      ∧ (r.keep = true → r.isPlain = false → r.output.name.toList.getLast? ≠ some '.' →
          ((kept ++ artifacts).Nodup
            ↔ (names.map Request.safeName).Nodup ∧ (r.output.suffix = "" →
                (names.map Request.bareName).Nodup
                  ∧ ∀ a ∈ names, ∀ b ∈ names,
                      Request.safeName b ≠ Request.bareName a ++ Request.descriptionSuffix)))
      ∧ ∀ g s es s', handle g r s = .ok es s' → roots g r s.world.fits = .ok names →
          1 < names.length → List.Forall₂ (Filed r true) names es := by
  refine ⟨names.map fun n => r.output.beside (Request.fileName r.output n),
    names.map fun n => r.output.beside (Request.keptName r.output n), ?_, ?_, ?_, ?_, ?_⟩
  · rw [List.map_map]
    exact List.map_congr_left fun n _ => Request.artifact?_eq hdash hname n
  · rw [List.map_map]
    exact List.map_congr_left fun n _ => Request.kept?_eq hdash hname n
  · have hinj : ∀ a b, r.output.beside (Request.fileName r.output a)
        = r.output.beside (Request.fileName r.output b)
          ↔ Request.safeName a = Request.safeName b :=
      fun a b => Path.beside_inj.trans Request.fileName_inj
    exact Request.nodup_map_iff_of_inj hinj names
  · intro hkeep hdrawn hend
    have hsuffix := Request.suffix_of_validate hvalid hkeep hdrawn
    have htogether : (names.map fun n => r.output.beside (Request.keptName r.output n))
          ++ (names.map fun n => r.output.beside (Request.fileName r.output n))
        = (names.map (Request.keptName r.output) ++ names.map (Request.fileName r.output)).map
            r.output.beside := by
      simp [Function.comp_def]
    rw [htogether, List.nodup_map_iff fun a b => Path.beside_inj.mp]
    exact Request.nodup_keptNames_iff hsuffix hend names
  · intro g s es s' hhandle hroots hseveral
    obtain ⟨names', hroots', hfiled⟩ := gives_handling g r s.world.fits s es s' hhandle
    rw [hroots, Except.ok.injEq] at hroots'
    rw [← hroots', decide_eq_true hseveral] at hfiled
    exact hfiled

/-- The roots of one call, each drawn to a file of its own with its description beside it. -/
def pairFiles : Request :=
  { roots := ["main", "work"], output := Path.ofString "out.svg", keep := true }

theorem pair_files_apart :
    pairFiles.validate = .ok () ∧ pairFiles.output ≠ Path.dash ∧ pairFiles.output.name ≠ ""
      ∧ ∃ artifacts kept : List Path,
        pairFiles.roots.map (Request.artifact? pairFiles.output · true) = artifacts.map some
        ∧ pairFiles.roots.map (Request.kept? pairFiles.output · true) = kept.map some
        ∧ (kept ++ artifacts).Nodup := by
  have hvalid : pairFiles.validate = .ok () := by decide
  have hdash : pairFiles.output ≠ Path.dash := by decide
  have hname : pairFiles.output.name ≠ "" := by decide
  obtain ⟨artifacts, kept, hartifacts, hkept, -, hapart, -⟩ :=
    outputs_apart pairFiles hvalid hdash hname pairFiles.roots
  refine ⟨hvalid, hdash, hname, artifacts, kept, hartifacts, hkept, ?_⟩
  exact (hapart rfl rfl (by decide)).mpr ⟨by decide, fun hempty => absurd hempty (by decide)⟩

/-- A graph of functions with one name but for their parameters, and one more. -/
def overloads : Graph :=
  ((({} : Graph).connect "f(int)" "f[int]" []).connect "f.1" "f.2" []).connect "f.1" "f.gv" []

/-- A request for two of them, written as text. -/
def overloadedText : Request :=
  { roots := ["f(int)", "f[int]"], output := Path.ofString "out.txt", format := "plain" }

/-- A request for the others, drawn to files without a suffix and with descriptions beside them. -/
def versionedFiles : Request :=
  { roots := ["f.1", "f.2", "f.gv"], output := Path.ofString "out", keep := true }

/-- Two roots have one artifact where they differ in nothing but characters that are unfit for a
    file name. And if the output has no suffix, a dot in the names of two roots may give them one
    description, or make the description of one the artifact of another. -/
theorem outputs_clash :
    overloadedText.validate = .ok () ∧ roots overloads overloadedText = .ok ["f(int)", "f[int]"]
      ∧ Request.artifact? overloadedText.output "f(int)" true
        = Request.artifact? overloadedText.output "f[int]" true
      ∧ versionedFiles.validate = .ok ()
      ∧ roots overloads versionedFiles = .ok ["f.1", "f.2", "f.gv"]
      ∧ Request.kept? versionedFiles.output "f.1" true
        = Request.kept? versionedFiles.output "f.2" true
      ∧ Request.kept? versionedFiles.output "f.1" true
        = Request.artifact? versionedFiles.output "f.gv" true := by
  refine ⟨by decide, by rfl, by decide, by decide, by rfl, ?_, ?_⟩
  · decide +kernel
  · decide +kernel

end Service

end CallExcerpt
