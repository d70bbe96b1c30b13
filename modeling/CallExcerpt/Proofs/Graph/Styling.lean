import CallExcerpt.Graph.Styling
import CallExcerpt.Proofs.Table

/-! # Attributes that are set for a while

    Whatever is marked between two resets, a reset brings all symbols back to
    the attributes that they had: the copies that are kept undo exactly what
    was set since.

    * `of_mark`: a mark lays its style over what a symbol has; to do so twice
      is to do it once (`overlaid_overlaid`).
    * `marked`: several marks in order. What they give a symbol depends on its
      attributes only, not on the copies (`Alike.marked`).
    * `Overlays`: a styling whose copies lead back to another one; kept by
      marks, and undone by `reset` (`Overlays.reset`).
    * `Rests`: nothing is laid over the lasting attributes.
-/

namespace CallExcerpt

namespace Styling

/-! ## Marks -/

/-- Gives several symbols attributes until the next reset. -/
def marked (s : Styling) (marks : List (String × Style)) : Styling :=
  marks.foldl (fun s m => s.mark m.1 m.2) s

theorem marked_append (s : Styling) (marks more : List (String × Style)) :
    s.marked (marks ++ more) = (s.marked marks).marked more := List.foldl_append

theorem of_put (s : Styling) (name key value other : String) :
    (s.put name key value).of other
      = if other = name then Table.put key value (s.of name) else s.of other := by
  by_cases h : other = name
  · simp [put, of, h]
  · simp [put, of, h, Table.lookup_put_ne h]

theorem of_save (s : Styling) (name other : String) : (s.save name).of other = s.of other := by
  unfold save
  split
  · rfl
  · rfl

theorem of_set (s : Styling) (name key value other : String) :
    (s.set name key value).of other
      = if other = name then Table.put key value (s.of name) else s.of other := by
  rw [set, of_put, of_save, of_save]

/-! ## Attributes laid over others -/

/-- Attributes with others laid over them in order. -/
def overlaid (base style : Style) : Style := style.foldl (fun s a => Table.put a.1 a.2 s) base

theorem overlaid_append (base style more : Style) :
    overlaid base (style ++ more) = overlaid (overlaid base style) more := List.foldl_append

/-- A mark lays its style over the attributes of its symbol. -/
theorem of_mark (s : Styling) (name : String) (style : Style) (other : String) :
    (s.mark name style).of other
      = if other = name then overlaid (s.of name) style else s.of other := by
  induction style generalizing s with
  | nil =>
    show s.of other = if other = name then s.of name else s.of other
    split
    · next h => rw [h]
    · rfl
  | cons a style ih =>
    show ((s.set name a.1 a.2).mark name style).of other = _
    rw [ih, of_set, of_set, if_pos rfl]
    split <;> rfl

theorem mem_keys_overlaid {base style : Style} {key : String}
    (h : key ∈ Table.keys base ∨ key ∈ Table.keys style) :
    key ∈ Table.keys (overlaid base style) := by
  induction style generalizing base with
  | nil => exact h.resolve_right (by simp [Table.keys])
  | cons a style ih =>
    apply ih
    rw [Table.mem_keys_put_iff]
    rcases h with hbase | hstyle
    · exact .inl (.inr hbase)
    · rcases List.mem_cons.mp hstyle with heq | hstyle
      · exact .inl (.inl heq)
      · exact .inr hstyle

/-- What is put under a key before a style is laid over makes no difference if the key gets another
    value at the end. -/
theorem put_overlaid_put {base style : Style} (h : ∀ k ∈ Table.keys style, k ∈ Table.keys base)
    (key value before : String) :
    Table.put key value (overlaid (Table.put key before base) style)
      = Table.put key value (overlaid base style) := by
  induction style generalizing base with
  | nil => exact Table.put_put key before value base
  | cons a style ih =>
    have hrest : ∀ k ∈ Table.keys style, k ∈ Table.keys (Table.put a.1 a.2 base) := by
      intro k hk
      exact Table.mem_keys_put_iff.mpr (.inr (h k (.tail _ hk)))
    show Table.put key value (overlaid (Table.put a.1 a.2 (Table.put key before base)) style) = _
    -- an entry for the key takes the place of the value; another one changes places with it
    by_cases hkey : a.1 = key
    · rw [hkey, Table.put_put, ← hkey]
      rfl
    · rw [Table.put_comm hkey (h a.1 (.head _)), ih hrest]
      rfl

/-- A style that was laid over attributes changes nothing when it is laid over them again, even one
    that gives a key two values in a row. -/
theorem overlaid_overlaid (base style : Style) :
    overlaid (overlaid base style) style = overlaid base style := by
  -- from the last entry backwards: it decides on its key both times
  induction style using List.reverseRecOn with
  | nil => rfl
  | append_singleton style a ih =>
    have hkeys : ∀ k ∈ Table.keys style, k ∈ Table.keys (overlaid base style) :=
      fun k hk => mem_keys_overlaid (.inr hk)
    rw [overlaid_append, overlaid_append]
    show Table.put a.1 a.2 (overlaid (Table.put a.1 a.2 (overlaid base style)) style) = _
    rw [put_overlaid_put hkeys, ih]
    rfl

/-! ## Styles of the same attributes -/

/-- All symbols have the same attributes. -/
def Alike (s s' : Styling) : Prop := ∀ name, s.of name = s'.of name

theorem Alike.refl (s : Styling) : Alike s s := fun _ => rfl

theorem Alike.mark {s s' : Styling} (h : Alike s s') (name : String) (style : Style) :
    Alike (s.mark name style) (s'.mark name style) := by
  induction style generalizing s s' with
  | nil => exact h
  | cons a style ih =>
    apply ih
    intro other
    rw [of_set, of_set, h name, h other]

theorem Alike.marked {s s' : Styling} (h : Alike s s') (marks : List (String × Style)) :
    Alike (s.marked marks) (s'.marked marks) := by
  induction marks generalizing s s' with
  | nil => exact h
  | cons m marks ih => exact ih (h.mark m.1 m.2)

/-! ## Taking back -/

/-- The copies that a styling keeps lead back to another one. -/
structure Overlays (fresh s : Styling) : Prop where
  keys : (Table.keys s.saved).Nodup
  back : ∀ name, (s.saved.lookup name).getD (s.of name) = fresh.of name

/-- A styling without copies, whose symbols have the attributes of another one. -/
structure Rests (fresh s : Styling) : Prop where
  saved : s.saved = []
  alike : Alike s fresh

theorem Rests.overlays {fresh s : Styling} (h : Rests fresh s) : Overlays fresh s where
  keys := by
    rw [h.saved]
    exact List.nodup_nil
  back := fun name => by
    rw [h.saved]
    exact h.alike name

theorem Overlays.set {fresh s : Styling} (h : Overlays fresh s) (name key value : String) :
    Overlays fresh (s.set name key value) := by
  cases hkept : s.saved.lookup name with
  | some style =>
    -- the symbol was changed before: its copy stays
    have hsaved : (s.set name key value).saved = s.saved := by
      simp [Styling.set, put, save, hkept]
    refine ⟨hsaved ▸ h.keys, fun other => ?_⟩
    rw [hsaved, of_set, ← h.back other]
    by_cases ho : other = name
    · simp [ho, hkept]
    · simp [ho]
  | none =>
    have hsaved : (s.set name key value).saved = Table.put name (s.of name) s.saved := by
      simp [Styling.set, put, save, hkept]
    have hnot : name ∉ Table.keys s.saved := by
      rw [Table.mem_keys_iff, hkept]
      exact Bool.false_ne_true
    constructor
    · rw [hsaved, Table.keys_put_of_not_mem hnot]
      refine List.nodup_append.mpr ⟨h.keys, by simp, ?_⟩
      intro k hk other hother heq
      rw [List.mem_singleton.mp hother] at heq
      exact hnot (heq ▸ hk)
    · intro other
      rw [hsaved, of_set, ← h.back other]
      by_cases ho : other = name
      · simp [ho, hkept]
      · simp [ho, Table.lookup_put_ne ho]

theorem Overlays.mark {fresh s : Styling} (h : Overlays fresh s) (name : String) (style : Style) :
    Overlays fresh (s.mark name style) := by
  induction style generalizing s with
  | nil => exact h
  | cons a style ih => exact ih (h.set name a.1 a.2)

theorem Overlays.marked {fresh s : Styling} (h : Overlays fresh s)
    (marks : List (String × Style)) : Overlays fresh (s.marked marks) := by
  induction marks generalizing s with
  | nil => exact h
  | cons m marks ih => exact ih (h.mark m.1 m.2)

/-- A reset brings back what the copies lead to. -/
theorem Overlays.reset {fresh s : Styling} (h : Overlays fresh s) : Rests fresh s.reset where
  saved := rfl
  alike := fun name => by
    rw [← h.back name, of, Styling.reset, Table.lookup_foldl_put h.keys]
    cases s.saved.lookup name with
    | none => rfl
    | some style => rfl

/-- Whatever was marked, a reset takes it back. -/
theorem Rests.reset_marked {fresh s : Styling} (h : Rests fresh s)
    (marks : List (String × Style)) : Rests fresh (s.marked marks).reset :=
  (h.overlays.marked marks).reset

end Styling

end CallExcerpt
