import CallExcerpt.Proofs.Files.Path
import CallExcerpt.Request.Artifact

/-! # Files beside each other

    With several roots each file is named after its root, as far as the name
    of the root can stand in a file name. Two roots may come to the same name,
    and so their files may be one file. A description that is kept takes the
    place of the suffix, and where the output has no suffix, that of whatever
    looks like one in the name of the root.

    * `artifact?_eq`, `kept?_eq`: the files of a root, by their names.
    * `keptName_of_suffix`, `keptName_of_no_suffix`: what is left of a root in
      the name of its description.
    * `nodup_fileNames_iff`: files are told apart if the roots are, once they
      are fit for a file name.
    * `nodup_keptNames_iff`: what tells the kept descriptions apart from each
      other and from all artifacts.
    * `clean_artifact`, `parent_artifact`: a name of a root brings nothing into
      a path that the system refuses, and leads to no other directory.
-/

namespace CallExcerpt

namespace Path

/-- The path of a name in the same directory. -/
def beside (p : Path) (name : String) : Path := { p with parts := p.parts.dropLast ++ [name] }

theorem beside_inj {p : Path} {a b : String} : p.beside a = p.beside b ↔ a = b := by
  simp [beside]

@[simp] theorem name_beside (p : Path) (name : String) : (p.beside name).name = name := by
  simp [beside, Path.name]

@[simp] theorem beside_beside (p : Path) (a b : String) : (p.beside a).beside b = p.beside b := by
  simp [beside]

theorem withName?_eq {p : Path} (h : p.name ≠ "") (name : String) :
    p.withName? name = some (p.beside name) := by
  rw [withName?, if_neg h]
  rfl

/-- A name without its suffix. -/
def cut (name : String) : String := String.ofList (splitName name.toList).1

theorem withSuffix?_beside (p : Path) {name : String} (h : name ≠ "") (suffix : String) :
    (p.beside name).withSuffix? suffix = some (p.beside (cut name ++ suffix)) := by
  have hname : (p.beside name).name ≠ "" := by simpa using h
  have hstem : (p.beside name).stem = cut name := by rw [stem, name_beside, cut]
  rw [withSuffix?, withName?_eq hname, hstem, beside_beside]

theorem suffix_eq_empty_iff {p : Path} : p.suffix = "" ↔ (splitName p.name.toList).2 = [] := by
  rw [suffix, ← String.toList_inj, String.toList_ofList]
  rfl

theorem stem_of_no_suffix {p : Path} (h : p.suffix = "") : p.stem = p.name := by
  rw [stem, (splitName_of_no_suffix (suffix_eq_empty_iff.mp h)).1, String.ofList_toList]

/-- A suffix that ends a name is what the name is cut by. -/
theorem cut_append {p : Path} (h : p.suffix ≠ "") {name : String} (hname : name ≠ "") :
    cut (name ++ p.suffix) = name := by
  obtain ⟨tail, htail, hdot, hsuffix⟩ :=
    exists_tail_of_suffix fun he => h (suffix_eq_empty_iff.mpr he)
  have hstem : name.toList ≠ [] := fun he => hname (String.toList_inj.mp he)
  rw [cut, suffix, hsuffix, String.toList_append, String.toList_ofList, splitName_append _ hdot,
    if_neg (by simp [hstem, htail]), String.ofList_toList]

end Path

namespace Request

/-! ## Names of files -/

/-- The name of the file of one of several roots. -/
def fileName (output : Path) (root : String) : String :=
  output.stem ++ "-" ++ safeName root ++ output.suffix

/-- The name of the description that is kept for one of several roots. -/
def keptName (output : Path) (root : String) : String :=
  Path.cut (fileName output root) ++ descriptionSuffix

/-- Where the description of a root is kept. -/
def kept? (output : Path) (root : String) (several : Bool) : Option Path :=
  (artifact? output root several).bind (·.withSuffix? descriptionSuffix)

/-- The name of a root as part of a file name, without what looks like a suffix of the file. -/
def bareName (root : String) : String :=
  String.ofList (Path.splitName ('-' :: (safeName root).toList)).1.tail

section names
variable {output : Path}

theorem fileName_ne_empty (output : Path) (root : String) : fileName output root ≠ "" := by
  intro h
  have hlist := congrArg String.toList h
  simp [fileName] at hlist

theorem artifact?_def (output : Path) (root : String) (several : Bool) :
    artifact? output root several = if !several || output = Path.dash then some output
      else output.withName? (fileName output root) := rfl

theorem artifact?_eq (hdash : output ≠ Path.dash) (hname : output.name ≠ "") (root : String) :
    artifact? output root true = some (output.beside (fileName output root)) := by
  simp [artifact?_def, hdash, Path.withName?_eq hname]

theorem kept?_eq (hdash : output ≠ Path.dash) (hname : output.name ≠ "") (root : String) :
    kept? output root true = some (output.beside (keptName output root)) := by
  rw [kept?, artifact?_eq hdash hname, Option.bind_some,
    Path.withSuffix?_beside _ (fileName_ne_empty output root), keptName]

theorem fileName_inj {a b : String} :
    fileName output a = fileName output b ↔ safeName a = safeName b := by
  rw [fileName, fileName]
  simp [String.ext_iff]

/-- With a suffix on the output, nothing in the name of a root is taken for one. -/
theorem keptName_of_suffix (h : output.suffix ≠ "") (root : String) :
    keptName output root = output.stem ++ "-" ++ safeName root ++ descriptionSuffix := by
  have hne : output.stem ++ "-" ++ safeName root ≠ "" := by
    intro he
    have hlist := congrArg String.toList he
    simp at hlist
  rw [keptName, fileName, Path.cut_append h hne]

/-- Without one, the name of a root loses what looks like a suffix. -/
theorem keptName_of_no_suffix (h : output.suffix = "")
    (hend : output.name.toList.getLast? ≠ some '.') (root : String) :
    keptName output root = output.name ++ "-" ++ bareName root ++ descriptionSuffix := by
  have hfile : (fileName output root).toList
      = output.name.toList ++ '-' :: (safeName root).toList := by
    simp [fileName, Path.stem_of_no_suffix h, h]
  have hcut : (Path.splitName (fileName output root).toList).1
      = output.name.toList ++ '-' :: (bareName root).toList := by
    rw [hfile, Path.splitName_append_of_no_suffix (Path.suffix_eq_empty_iff.mp h) hend (by decide),
      Path.splitName_cons, bareName, String.toList_ofList]
  rw [keptName, Path.cut, hcut, ← String.toList_inj]
  simp

/-! ## Names told apart -/

/-- Two ways of naming that tell the same things apart. -/
theorem nodup_map_iff_of_inj {α β γ : Type} {f : α → β} {k : α → γ}
    (h : ∀ a b, f a = f b ↔ k a = k b) (l : List α) : (l.map f).Nodup ↔ (l.map k).Nodup := by
  simp only [List.Nodup, List.pairwise_map, ne_eq, h]

/-- Files are told apart as far as the names of the roots are, once they are fit for it. -/
theorem nodup_fileNames_iff (names : List String) :
    (names.map (fileName output)).Nodup ↔ (names.map safeName).Nodup :=
  nodup_map_iff_of_inj (fun _ _ => fileName_inj) names

/-- With a suffix on the output, a description differs from each artifact in its own. -/
theorem keptName_ne_fileName (hempty : output.suffix ≠ "")
    (hsuffix : output.suffix ≠ descriptionSuffix) (a b : String) :
    keptName output a ≠ fileName output b := by
  obtain ⟨tail, htail, hdot, hsplit⟩ :=
    Path.exists_tail_of_suffix fun he => hempty (Path.suffix_eq_empty_iff.mpr he)
  have htext : output.suffix.toList = '.' :: tail := by
    rw [Path.suffix, String.toList_ofList, hsplit]
  -- both names are split at the same dot, so the suffixes would be the same
  have hkept : Path.splitName (keptName output a).toList
      = ((output.stem ++ "-" ++ safeName a).toList, ['.', 'g', 'v']) := by
    rw [keptName_of_suffix hempty, String.toList_append]
    exact (Path.splitName_append _ (by decide)).trans (if_neg (by simp))
  have hfile : Path.splitName (fileName output b).toList
      = ((output.stem ++ "-" ++ safeName b).toList, '.' :: tail) := by
    rw [fileName, String.toList_append, htext, Path.splitName_append _ hdot,
      if_neg (by simp [htail])]
  intro h
  rw [h, hfile] at hkept
  have hsame : '.' :: tail = ['.', 'g', 'v'] := congrArg Prod.snd hkept
  exact hsuffix (String.toList_inj.mp (htext.trans hsame))

/-- Nothing that is kept takes the name of an artifact or of another description: what tells the
    roots apart must be left of their names, and where the output has no suffix, be left once they
    lose what looks like one. -/
theorem nodup_keptNames_iff (hsuffix : output.suffix ≠ descriptionSuffix)
    (hend : output.name.toList.getLast? ≠ some '.') (names : List String) :
    (names.map (keptName output) ++ names.map (fileName output)).Nodup
      ↔ (names.map safeName).Nodup ∧ (output.suffix = "" →
          (names.map bareName).Nodup
            ∧ ∀ a ∈ names, ∀ b ∈ names, safeName b ≠ bareName a ++ descriptionSuffix) := by
  rw [List.nodup_append, nodup_fileNames_iff]
  by_cases hempty : output.suffix = ""
  · have hinj : ∀ a b, keptName output a = keptName output b ↔ bareName a = bareName b := by
      intro a b
      rw [keptName_of_no_suffix hempty hend, keptName_of_no_suffix hempty hend]
      simp [String.ext_iff]
    have hclash : ∀ a b, keptName output a = fileName output b
        ↔ safeName b = bareName a ++ descriptionSuffix := by
      intro a b
      rw [keptName_of_no_suffix hempty hend, fileName, hempty, Path.stem_of_no_suffix hempty]
      simp [String.ext_iff, eq_comm]
    simp only [nodup_map_iff_of_inj hinj, List.forall_mem_map, ne_eq, hclash, hempty, true_imp_iff]
    exact and_left_comm
  · have hinj : ∀ a b, keptName output a = keptName output b ↔ safeName a = safeName b := by
      intro a b
      rw [keptName_of_suffix hempty, keptName_of_suffix hempty]
      simp [String.ext_iff]
    have hclash := keptName_ne_fileName hempty hsuffix
    rw [nodup_map_iff_of_inj hinj]
    constructor
    · rintro ⟨-, hsafe, -⟩
      exact ⟨hsafe, fun he => absurd he hempty⟩
    · rintro ⟨hsafe, -⟩
      refine ⟨hsafe, hsafe, ?_⟩
      simp only [List.forall_mem_map]
      exact fun a _ b _ => hclash a b

end names

/-! ## What the system takes -/

theorem isSafe_of_mem_safeChars {c : Char} {cs : List Char} {inRun : Bool}
    (h : c ∈ safeChars inRun cs) : isSafe c = true := by
  induction cs generalizing inRun with
  | nil => cases h
  | cons d cs ih =>
    rw [safeChars] at h
    split at h
    case isTrue hsafe =>
      obtain rfl | hrest := List.mem_cons.mp h
      · exact hsafe
      · exact ih hrest
    case isFalse =>
      split at h
      case isTrue => exact ih h
      case isFalse =>
        obtain rfl | hrest := List.mem_cons.mp h
        · decide
        · exact ih hrest

theorem not_mem_safeName (root : String) : '\x00' ∉ (safeName root).toList := by
  intro hmem
  rw [safeName, String.toList_ofList] at hmem
  have hsafe : isSafe '\x00' = false := by decide
  rw [isSafe_of_mem_safeChars hmem] at hsafe
  cases hsafe

theorem not_mem_descriptionName (root : String) : '\x00' ∉ (descriptionName root).toList := by
  have hsafe := not_mem_safeName root
  simp [descriptionName, descriptionSuffix, hsafe]

section clean
variable {output p q : Path} {root : String} {several : Bool}

/-- Standard output is the artifact of no other output. -/
theorem eq_dash_of_artifact (h : artifact? output root several = some Path.dash) :
    output = Path.dash := by
  rw [artifact?_def] at h
  split at h
  case isTrue => exact Option.some.inj h
  case isFalse =>
    unfold Path.withName? at h
    split at h
    case isTrue => cases h
    case isFalse hname =>
      -- a dash alone leaves nothing for the name of the output
      have hparts := congrArg Path.parts (Option.some.inj h)
      have hdash : fileName output root = "-" := by
        simpa [Path.dash] using congrArg List.getLast? hparts
      have hchars : (Path.splitName output.name.toList).1
          ++ '-' :: ((safeName root).toList ++ (Path.splitName output.name.toList).2) = ['-'] := by
        simpa [fileName, Path.stem, Path.suffix] using congrArg String.toList hdash
      have hlength := congrArg List.length hchars
      rw [List.length_append, List.length_cons, List.length_append, List.length_singleton] at hlength
      have hwhole := congrArg List.length (Path.splitName_fst_append_snd output.name.toList)
      rw [List.length_append] at hwhole
      have hnone : output.name.toList.length = 0 := by omega
      exact absurd (String.toList_inj.mp (List.eq_nil_of_length_eq_zero hnone)) hname

theorem clean_artifact (h : output.Clean) (hp : artifact? output root several = some p) :
    p.Clean := by
  rw [artifact?_def] at hp
  split at hp
  case isTrue =>
    cases hp
    exact h
  case isFalse =>
    refine h.withName? ?_ hp
    have hsafe := not_mem_safeName root
    simp [fileName, h.stem, h.suffix, hsafe]

theorem parent_artifact (hp : artifact? output root several = some p) :
    p.parent = output.parent := by
  rw [artifact?_def] at hp
  split at hp
  case isTrue =>
    cases hp
    rfl
  case isFalse => exact Path.parent_withName? hp

theorem clean_kept (h : p.Clean) (hq : p.withSuffix? descriptionSuffix = some q) : q.Clean := by
  refine h.withName? ?_ hq
  simp [h.stem, descriptionSuffix]

/-- Only an output without a name has no place for an artifact. -/
theorem name_of_no_artifact (h : artifact? output root several = none) : output.name = "" := by
  rw [artifact?_def] at h
  split at h
  case isTrue => cases h
  case isFalse =>
    apply Classical.byContradiction
    intro hname
    rw [Path.withName?_eq hname] at h
    cases h

/-- And only the output itself, if it is one, has no place for a description beside it. -/
theorem eq_output_of_no_kept (hp : artifact? output root several = some p)
    (h : p.withSuffix? descriptionSuffix = none) : p = output ∧ output.name = "" := by
  have hempty : p.name = "" := by
    apply Classical.byContradiction
    intro hname
    rw [Path.withSuffix?, Path.withName?_eq hname] at h
    cases h
  rw [artifact?_def] at hp
  split at hp
  case isTrue =>
    cases hp
    exact ⟨rfl, hempty⟩
  case isFalse =>
    unfold Path.withName? at hp
    split at hp
    case isTrue => cases hp
    case isFalse =>
      cases hp
      exact absurd ((Path.name_beside output _).symm.trans hempty) (fileName_ne_empty output root)

end clean

/-- What is not written as it is has a format that is drawn. -/
theorem format_of_validate {r : Request} (hvalid : r.validate = .ok ())
    (hdrawn : r.isPlain = false) : r.format ∈ drawnFormats := by
  simp only [validate, hdrawn] at hvalid
  split_ifs at hvalid
  simp_all

/-- No drawing that goes with a kept description has its suffix. -/
theorem suffix_of_validate {r : Request} (hvalid : r.validate = .ok ()) (hkeep : r.keep = true)
    (hdrawn : r.isPlain = false) : r.output.suffix ≠ descriptionSuffix := by
  intro hsuffix
  simp only [validate, hkeep, hdrawn, hsuffix] at hvalid
  split_ifs at hvalid
  simp_all

end Request

end CallExcerpt
