import Mathlib.Data.List.Infix
import Mathlib.Data.List.Induction

/-!
# Recorded runs

A run of a system is recorded as the list of its moves.  A move knows the state
it starts from and the state it leads to, so a recorded run is a chain: every
move starts where the one before it ended.

`Chain.induction` is the invariant rule for properties of the whole record.
Properties of the form "from such a move until such a move" speak about a
window of the record, and `Chain.window_induction` is the invariant rule for
those: the opening move establishes the relation between the moves of the
window and the state, and every move that does not close the window keeps it.
-/

namespace FH8852
namespace History

variable {σ μ : Type*}

/-! ## Chains -/

/-- `Chain src tgt ok s l t`: the moves `l` are each `ok` and lead from `s` to
`t`. -/
inductive Chain (src tgt : μ → σ) (ok : μ → Prop) (s : σ) : List μ → σ → Prop
  | nil : Chain src tgt ok s [] s
  | snoc {l t m} : Chain src tgt ok s l t → ok m → src m = t →
      Chain src tgt ok s (l ++ [m]) (tgt m)

namespace Chain

variable {src tgt : μ → σ} {ok ok' : μ → Prop} {s t u : σ} {l l' : List μ}

theorem single {m : μ} (hok : ok m) (hs : src m = s) : Chain src tgt ok s [m] (tgt m) :=
  Chain.nil.snoc hok hs

theorem append (h : Chain src tgt ok s l t) (h' : Chain src tgt ok t l' u) :
    Chain src tgt ok s (l ++ l') u := by
  induction h' with
  | nil => rw [List.append_nil]; exact h
  | snoc _ hok hsrc ih =>
      rw [← List.append_assoc]
      exact ih.snoc hok hsrc

/-- Every initial part of a record is the record of a run. -/
theorem of_isPrefix (h : Chain src tgt ok s l t) (hl : l' <+: l) :
    ∃ u, Chain src tgt ok s l' u := by
  induction h with
  | nil =>
      rw [List.prefix_nil.mp hl]
      exact ⟨s, .nil⟩
  | snoc h hok hsrc ih =>
      rcases List.prefix_concat_iff.mp hl with rfl | hl
      · exact ⟨_, h.snoc hok hsrc⟩
      · exact ih hl

theorem strengthen (h : Chain src tgt ok s l t) (hl : ∀ m ∈ l, ok m → ok' m) :
    Chain src tgt ok' s l t := by
  induction h with
  | nil => exact .nil
  | snoc _ hok hsrc ih =>
      exact (ih fun m hm => hl m (by simp [hm])).snoc (hl _ (by simp) hok) hsrc

theorem of_snoc {m : μ} (h : Chain src tgt ok s (l ++ [m]) t) :
    Chain src tgt ok s l (src m) ∧ ok m ∧ t = tgt m := by
  generalize hl : l ++ [m] = l' at h
  cases h with
  | nil => simp at hl
  | snoc h hok hsrc =>
      obtain ⟨rfl, hm⟩ := List.append_inj' hl rfl
      cases hm
      exact ⟨hsrc ▸ h, hok, rfl⟩

theorem of_append (h : Chain src tgt ok s (l ++ l') t) :
    ∃ u, Chain src tgt ok s l u ∧ Chain src tgt ok u l' t := by
  induction l' using List.reverseRecOn generalizing t with
  | nil =>
      rw [List.append_nil] at h
      exact ⟨t, h, .nil⟩
  | append_singleton l' m ih =>
      rw [← List.append_assoc] at h
      obtain ⟨hchain, hok, rfl⟩ := h.of_snoc
      obtain ⟨u, hl, hl'⟩ := ih hchain
      exact ⟨u, hl, hl'.snoc hok rfl⟩

/-- Every part of a record is the record of a run from some state. -/
theorem of_isInfix (h : Chain src tgt ok s l t) (hl : l' <:+: l) :
    ∃ u v, Chain src tgt ok u l' v := by
  obtain ⟨before, after, rfl⟩ := hl
  obtain ⟨v, hv⟩ := h.of_isPrefix (List.prefix_append (before ++ l') after)
  obtain ⟨u, -, hu⟩ := hv.of_append
  exact ⟨u, v, hu⟩

theorem ok_of_mem {m : μ} (h : Chain src tgt ok s l t) (hm : m ∈ l) : ok m := by
  induction h with
  | nil => cases hm
  | snoc _ hok _ ih =>
      rcases List.mem_append.mp hm with hm | hm
      · exact ih hm
      · rw [List.mem_singleton.mp hm]
        exact hok

/-- The invariant rule: what holds of the empty record and is kept by every
move holds of every record. -/
theorem induction {P : List μ → σ → Prop} (h : Chain src tgt ok s l t) (h0 : P [] s)
    (hstep : ∀ l m, P l (src m) → ok m → P (l ++ [m]) (tgt m)) : P l t := by
  induction h with
  | nil => exact h0
  | snoc _ hok hsrc ih =>
      subst hsrc
      exact hstep _ _ ih hok

/-- An invariant of the states alone holds at the end, and every move starts in
a state that satisfies it. -/
theorem invariant {I : σ → Prop} (h : Chain src tgt ok s l t) (h0 : I s)
    (hstep : ∀ m, I (src m) → ok m → I (tgt m)) :
    Chain src tgt (fun m => ok m ∧ I (src m)) s l t ∧ I t := by
  induction h with
  | nil => exact ⟨.nil, h0⟩
  | snoc _ hok hsrc ih =>
      subst hsrc
      exact ⟨ih.1.snoc ⟨hok, ih.2⟩ rfl, hstep _ ih.2 hok⟩

end Chain

/-- The state at the end of the moves `l` from `s`. -/
def final (tgt : μ → σ) (s : σ) (l : List μ) : σ := l.getLast?.elim s tgt

theorem Chain.eq_final {src tgt : μ → σ} {ok : μ → Prop} {s t : σ} {l : List μ}
    (h : Chain src tgt ok s l t) : t = final tgt s l := by
  cases h with
  | nil => rfl
  | snoc => simp [final]

/-! ## Windows -/

/-- The last move that `opens` and the moves after it, unless one of these
`closes`. -/
def window (opens closes : μ → Bool) : List μ → Option (μ × List μ) :=
  List.foldl (fun w m =>
    if opens m then some (m, [])
    else if closes m then none
    else w.map fun v => (v.1, v.2 ++ [m])) none

@[simp] theorem window_nil (opens closes : μ → Bool) : window opens closes [] = none := rfl

theorem window_snoc (opens closes : μ → Bool) (l : List μ) (m : μ) :
    window opens closes (l ++ [m]) =
      if opens m then some (m, [])
      else if closes m then none
      else (window opens closes l).map fun v => (v.1, v.2 ++ [m]) := by
  simp only [window, List.foldl_append, List.foldl_cons, List.foldl_nil]

/-- The invariant rule for windows. -/
theorem Chain.window_induction {src tgt : μ → σ} {ok : μ → Prop} {s t : σ} {l w : List μ}
    {m₀ : μ} {opens closes : μ → Bool} {R : μ → List μ → σ → Prop}
    (h : Chain src tgt ok s l t) (hw : window opens closes l = some (m₀, w))
    (hopen : ∀ m, ok m → opens m = true → R m [] (tgt m))
    (hkeep : ∀ m₀ w m, R m₀ w (src m) → ok m → opens m = false → closes m = false →
      R m₀ (w ++ [m]) (tgt m)) : R m₀ w t := by
  induction h generalizing m₀ w with
  | nil => cases hw
  | @snoc _ _ m _ hok hsrc ih =>
      subst hsrc
      rw [window_snoc] at hw
      cases ho : opens m with
      | true =>
          rw [ho, if_pos rfl] at hw
          cases hw
          exact hopen m hok ho
      | false =>
          cases hc : closes m with
          | true => simp [ho, hc] at hw
          | false =>
              simp only [ho, hc, Bool.false_eq_true, if_false, Option.map_eq_some_iff] at hw
              obtain ⟨v, hv, hvw⟩ := hw
              cases hvw
              exact hkeep _ _ _ (ih hv) hok ho hc

/-- A window is open exactly while a property of the states holds that opening
moves establish, closing moves end and all others keep. -/
theorem Chain.window_isSome {src tgt : μ → σ} {ok : μ → Prop} {s t : σ} {l : List μ}
    {opens closes : μ → Bool} {P : σ → Prop} (h : Chain src tgt ok s l t) (h0 : ¬ P s)
    (hopen : ∀ m, ok m → opens m = true → P (tgt m))
    (hclose : ∀ m, ok m → opens m = false → closes m = true → ¬ P (tgt m))
    (hkeep : ∀ m, ok m → opens m = false → closes m = false → (P (tgt m) ↔ P (src m))) :
    (window opens closes l).isSome = true ↔ P t := by
  induction h with
  | nil => simp [h0]
  | @snoc _ _ m _ hok hsrc ih =>
      subst hsrc
      rw [window_snoc]
      cases ho : opens m with
      | true => simp [hopen m hok ho]
      | false =>
          cases hc : closes m with
          | true => simp [hclose m hok ho hc]
          | false =>
              simp only [Bool.false_eq_true, if_false, Option.isSome_map]
              rw [ih, hkeep m hok ho hc]

/-- The moves of a window are moves of the record. -/
theorem window_subset {opens closes : μ → Bool} {l w : List μ} {m₀ : μ}
    (hw : window opens closes l = some (m₀, w)) : opens m₀ = true ∧ m₀ ∈ l ∧ w ⊆ l := by
  induction l using List.reverseRecOn generalizing m₀ w with
  | nil => cases hw
  | append_singleton l m ih =>
      rw [window_snoc] at hw
      cases ho : opens m with
      | true =>
          rw [ho, if_pos rfl] at hw
          cases hw
          exact ⟨ho, by simp, List.nil_subset _⟩
      | false =>
          cases hc : closes m with
          | true => simp [ho, hc] at hw
          | false =>
              simp only [ho, hc, Bool.false_eq_true, if_false, Option.map_eq_some_iff] at hw
              obtain ⟨v, hv, hvw⟩ := hw
              cases hvw
              obtain ⟨hm₀, hmem, hsub⟩ := ih hv
              refine ⟨hm₀, by simp [hmem], ?_⟩
              intro x hx
              rcases List.mem_append.mp hx with hx | hx
              · exact List.mem_append.mpr (.inl (hsub hx))
              · exact List.mem_append.mpr (.inr hx)

/-- A record ends with its window, in which nothing opens or closes it. -/
theorem window_eq {opens closes : μ → Bool} {l w : List μ} {m₀ : μ}
    (hw : window opens closes l = some (m₀, w)) :
    (∃ before, l = before ++ m₀ :: w) ∧ ∀ m ∈ w, opens m = false ∧ closes m = false := by
  induction l using List.reverseRecOn generalizing m₀ w with
  | nil => cases hw
  | append_singleton l m ih =>
      rw [window_snoc] at hw
      cases ho : opens m with
      | true =>
          rw [ho, if_pos rfl] at hw
          cases hw
          exact ⟨⟨l, rfl⟩, fun _ hm => absurd hm List.not_mem_nil⟩
      | false =>
          cases hc : closes m with
          | true => simp [ho, hc] at hw
          | false =>
              simp only [ho, hc, Bool.false_eq_true, if_false, Option.map_eq_some_iff] at hw
              obtain ⟨v, hv, hvw⟩ := hw
              cases hvw
              obtain ⟨⟨before, hl⟩, hquiet⟩ := ih hv
              refine ⟨⟨before, ?_⟩, ?_⟩
              · rw [hl, List.append_assoc]
                rfl
              · exact List.forall_mem_append.mpr ⟨hquiet, List.forall_mem_singleton.mpr ⟨ho, hc⟩⟩

end History
end FH8852
