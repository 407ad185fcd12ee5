import Mathlib.Data.List.Nodup

/-!
# Handles

A program that acquires handles from an environment, uses them and releases
them.  The environment promises that a handle it gives out is not one that is
open; the program owes that it uses and releases open handles only.

`Triple own ops own'` says that a part of the program that owns the handles
`own` owes nothing after the operations `ops` and owns `own'` then, whatever
handles the rest of the program owns: the frame is in the definition, so
`Triple.frame` holds of every part.
-/

namespace FH8852
namespace Handles

variable {α : Type*} [DecidableEq α]

inductive Op (α : Type*) where
  | acquire (a : α)
  | use (a : α)
  | release (a : α)

/-- The open handles after an operation. -/
def step (held : List α) : Op α → List α
  | .acquire a => a :: held
  | .use _ => held
  | .release a => held.erase a

/-- The open handles after the operations. -/
def after (held : List α) (ops : List (Op α)) : List α := ops.foldl step held

/-- The environment keeps its promise. -/
def Fresh : (held : List α) → List (Op α) → Prop
  | _, [] => True
  | held, .acquire a :: ops => a ∉ held ∧ Fresh (a :: held) ops
  | held, .use _ :: ops => Fresh held ops
  | held, .release a :: ops => Fresh (held.erase a) ops

/-- No handle is used or released that is not open. -/
def Safe : (held : List α) → List (Op α) → Prop
  | _, [] => True
  | held, .acquire a :: ops => Safe (a :: held) ops
  | held, .use a :: ops => a ∈ held ∧ Safe held ops
  | held, .release a :: ops => a ∈ held ∧ Safe (held.erase a) ops

instance decidableFresh : (held : List α) → (ops : List (Op α)) → Decidable (Fresh held ops)
  | _, [] => isTrue trivial
  | held, .acquire a :: ops =>
    have := decidableFresh (a :: held) ops
    inferInstanceAs (Decidable (a ∉ held ∧ Fresh (a :: held) ops))
  | held, .use _ :: ops => decidableFresh held ops
  | held, .release a :: ops => decidableFresh (held.erase a) ops

theorem after_append (held : List α) (ops ops' : List (Op α)) :
    after held (ops ++ ops') = after (after held ops) ops' := List.foldl_append

theorem fresh_append {held : List α} {ops ops' : List (Op α)} :
    Fresh held (ops ++ ops') ↔ Fresh held ops ∧ Fresh (after held ops) ops' := by
  induction ops generalizing held with
  | nil => exact (iff_of_eq (true_and _)).symm
  | cons op ops ih =>
      cases op with
      | acquire a => exact (and_congr_right fun _ => ih).trans and_assoc.symm
      | use | release => exact ih

theorem safe_append {held : List α} {ops ops' : List (Op α)} :
    Safe held (ops ++ ops') ↔ Safe held ops ∧ Safe (after held ops) ops' := by
  induction ops generalizing held with
  | nil => exact (iff_of_eq (true_and _)).symm
  | cons op ops ih =>
      cases op with
      | acquire => exact ih
      | use | release => exact (and_congr_right fun _ => ih).trans and_assoc.symm

/-! ## Ownership -/

def Triple (own : List α) (ops : List (Op α)) (own' : List α) : Prop :=
  ∀ held rest : List α, held.Perm (own ++ rest) → held.Nodup → Fresh held ops →
    Safe held ops ∧ (after held ops).Perm (own' ++ rest) ∧ (after held ops).Nodup

namespace Triple

variable {own own' own'' rest : List α} {ops ops' : List (Op α)} {a : α}

theorem nil : Triple own [] own := fun _ _ hperm hnodup _ => ⟨trivial, hperm, hnodup⟩

theorem append (h : Triple own ops own') (h' : Triple own' ops' own'') :
    Triple own (ops ++ ops') own'' := by
  intro held rest hperm hnodup hfresh
  obtain ⟨hfirst, hsecond⟩ := fresh_append.mp hfresh
  obtain ⟨hsafe, hmid, hmidNodup⟩ := h held rest hperm hnodup hfirst
  obtain ⟨hsafe', hlast, hlastNodup⟩ := h' _ rest hmid hmidNodup hsecond
  rw [after_append]
  exact ⟨safe_append.mpr ⟨hsafe, hsafe'⟩, hlast, hlastNodup⟩

/-- What the part does not own it leaves alone. -/
theorem frame (h : Triple own ops own') (rest : List α) :
    Triple (own ++ rest) ops (own' ++ rest) := by
  intro held others hperm hnodup hfresh
  rw [List.append_assoc] at hperm ⊢
  exact h held _ hperm hnodup hfresh

/-- The order in which the handles are listed does not matter. -/
theorem perm {own₁ own₁' : List α} (h : Triple own ops own') (hown : own₁.Perm own)
    (hown' : own'.Perm own₁') : Triple own₁ ops own₁' := by
  intro held rest hperm hnodup hfresh
  obtain ⟨hsafe, hlast, hlastNodup⟩ :=
    h held rest (hperm.trans (hown.append_right rest)) hnodup hfresh
  exact ⟨hsafe, hlast.trans (hown'.append_right rest), hlastNodup⟩

theorem acquire : Triple own [.acquire a] (a :: own) := by
  intro held rest hperm hnodup hfresh
  exact ⟨trivial, hperm.cons a, List.nodup_cons.mpr ⟨hfresh.1, hnodup⟩⟩

theorem use (ha : a ∈ own) : Triple own [.use a] own := by
  intro held rest hperm hnodup _
  have hheld : a ∈ held := hperm.mem_iff.mpr (List.mem_append_left rest ha)
  exact ⟨⟨hheld, trivial⟩, hperm, hnodup⟩

theorem release : Triple (a :: own) [.release a] own := by
  intro held rest hperm hnodup _
  have hheld : a ∈ held := hperm.mem_iff.mpr List.mem_cons_self
  have herase := hperm.erase a
  rw [List.cons_append, List.erase_cons_head] at herase
  exact ⟨⟨hheld, trivial⟩, herase, hnodup.erase a⟩

/-- A part that uses only what it owns. -/
theorem uses (h : ∀ op ∈ ops, ∃ a ∈ own, op = .use a) : Triple own ops own := by
  induction ops with
  | nil => exact nil
  | cons op ops ih =>
      obtain ⟨a, ha, rfl⟩ := h op List.mem_cons_self
      exact (use ha).append (ih fun op' hop' => h op' (List.mem_cons_of_mem _ hop'))

theorem releases (own rest : List α) : Triple (own ++ rest) (own.map .release) rest := by
  induction own with
  | nil => exact nil
  | cons a own ih => exact release.append ih

end Triple

end Handles
end FH8852
