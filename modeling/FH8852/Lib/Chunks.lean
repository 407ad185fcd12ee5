import Mathlib.Data.List.Infix

/-!
# Streams in chunks

A reader that takes the chunks of a stream one by one, until its buffer holds
enough.  What it ends with depends on how the stream is cut, but buffer and
remaining chunks always make up the same stream, and `fillUntil_spec` says that
it stops as soon as the whole stream has enough.
-/

namespace FH8852
namespace Chunks

variable {α : Type*}

def fillUntil (enough : List α → Bool) :
    List (List α) → List α → Option (List α × List (List α))
  | [], buf => if enough buf then some (buf, []) else none
  | chunk :: chunks, buf =>
    if enough buf then some (buf, chunk :: chunks) else fillUntil enough chunks (buf ++ chunk)

theorem fillUntil_spec {enough : List α → Bool} {chunks : List (List α)} {buf : List α}
    (h : enough (buf ++ chunks.flatten) = true) :
    ∃ buf' chunks', fillUntil enough chunks buf = some (buf', chunks') ∧ enough buf' = true ∧
      buf <+: buf' ∧ buf' ++ chunks'.flatten = buf ++ chunks.flatten ∧ chunks' <:+ chunks := by
  induction chunks generalizing buf with
  | nil =>
      rw [List.flatten_nil, List.append_nil] at h
      exact ⟨buf, [], if_pos h, h, List.prefix_refl _, rfl, List.suffix_refl _⟩
  | cons chunk chunks ih =>
      by_cases henough : enough buf = true
      · exact ⟨buf, chunk :: chunks, if_pos henough, henough, List.prefix_refl _, rfl,
          List.suffix_refl _⟩
      · have hflat : buf ++ (chunk :: chunks).flatten = (buf ++ chunk) ++ chunks.flatten := by
          rw [List.flatten_cons, List.append_assoc]
        rw [hflat] at h ⊢
        obtain ⟨buf', chunks', hfill, henough', hbuf, hstream, hsuffix⟩ := ih h
        refine ⟨buf', chunks', ?_, henough', (List.prefix_append _ _).trans hbuf, hstream,
          hsuffix.trans (List.suffix_cons _ _)⟩
        rw [fillUntil, if_neg henough]
        exact hfill

end Chunks
end FH8852
