import Mathlib.Data.List.Basic
import Mathlib.Control.Monad.Basic

/-!
# Programs that make requests

A program asks the world and goes on with the answer.  A monitor watches what is
asked and answered, and refuses what must not be asked; a program is safe if the
monitor never refuses, whatever the world answers.
-/

namespace FH8852

/-- A program with requests `Q`, answers `R` and a result in `α`. -/
inductive Dialogue (Q R : Type*) (α : Type*) where
  | done (a : α)
  | ask (q : Q) (next : R → Dialogue Q R α)

namespace Dialogue

variable {Q R σ : Type} {α β : Type}

def bind : Dialogue Q R α → (α → Dialogue Q R β) → Dialogue Q R β
  | done a, f => f a
  | ask q next, f => ask q fun r => (next r).bind f

instance : Monad (Dialogue Q R) where
  pure := done
  bind := bind

def request (q : Q) : Dialogue Q R R := ask q done

/-- A program that may give up. -/
abbrev Attempt (Q R : Type) := OptionT (Dialogue Q R)

/-- A request that the program gives up on where the answer is bad. -/
def checked (bad : R → Bool) (q : Q) : Attempt Q R R :=
  .mk (ask q fun r => done (if bad r then none else some r))

/-! ## Runs -/

/-- A run of the program, with what it asks and is answered, and its result. -/
inductive Runs : Dialogue Q R α → List (Q × R) → α → Prop
  | done (a : α) : Runs (.done a) [] a
  | ask {q : Q} {next : R → Dialogue Q R α} {r : R} {l : List (Q × R)} {a : α}
    (h : Runs (next r) l a) : Runs (.ask q next) ((q, r) :: l) a

/-- The run in a world that answers each request by its number and itself. -/
def exec (world : Nat → Q → R) : Nat → Dialogue Q R α → List (Q × R) × α
  | _, done a => ([], a)
  | n, ask q next =>
    let rest := exec world (n + 1) (next (world n q))
    ((q, world n q) :: rest.1, rest.2)

theorem exec_runs (world : Nat → Q → R) (n : Nat) (p : Dialogue Q R α) :
    Runs p (exec world n p).1 (exec world n p).2 := by
  induction p generalizing n with
  | done a => exact .done a
  | ask q next ih => exact .ask (ih _ _)

/-! ## Monitors -/

structure Monitor (Q R σ : Type) where
  /-- The answers that the world is trusted to give. -/
  allows : Q → R → Prop
  /-- The next state, or none where the request is refused. -/
  step : σ → Q → R → Option σ

variable {m : Monitor Q R σ}

def Monitor.watch (m : Monitor Q R σ) : σ → List (Q × R) → Option σ
  | s, [] => some s
  | s, (q, r) :: l => (m.step s q r).bind fun s' => m.watch s' l

/-- The monitor with a record of what it has seen. -/
def Monitor.recorded (m : Monitor Q R σ) : Monitor Q R (σ × List (Q × R)) :=
  ⟨m.allows, fun s q r => (m.step s.1 q r).map fun s' => (s', s.2 ++ [(q, r)])⟩

theorem Monitor.watch_recorded (m : Monitor Q R σ) (s : σ) (seen l : List (Q × R)) :
    m.recorded.watch (s, seen) l = (m.watch s l).map fun s' => (s', seen ++ l) := by
  induction l generalizing s seen with
  | nil => rw [watch, watch, Option.map_some, List.append_nil]
  | cons x l ih =>
      obtain ⟨q, r⟩ := x
      show Option.bind (Option.map _ (m.step s q r)) _ = _
      cases hstep : m.step s q r with
      | none => rw [watch, hstep]; rfl
      | some s' =>
          rw [Option.map_some, Option.bind_some, ih, watch, hstep, Option.bind_some,
            List.append_assoc]
          rfl

/-- A world that answers as it is trusted to. -/
theorem exec_allows {world : Nat → Q → R} (h : ∀ n q, m.allows q (world n q)) (n : Nat)
    (p : Dialogue Q R α) : ∀ x ∈ (exec world n p).1, m.allows x.1 x.2 := by
  induction p generalizing n with
  | done a => exact nofun
  | ask q next ih => exact List.forall_mem_cons.mpr ⟨h n q, ih _ _⟩

/-- From the state, the monitor never refuses, and what it ends in satisfies `post`. -/
def Safe (m : Monitor Q R σ) : Dialogue Q R α → σ → (α → σ → Prop) → Prop
  | done a, s, post => post a s
  | ask q next, s, post => ∀ r, m.allows q r → ∃ s', m.step s q r = some s' ∧
      (next r).Safe m s' post

theorem Safe.watch {p : Dialogue Q R α} {s : σ} {post : α → σ → Prop} (h : p.Safe m s post)
    {l : List (Q × R)} {a : α} (hrun : Runs p l a) (hl : ∀ x ∈ l, m.allows x.1 x.2) :
    ∃ s', m.watch s l = some s' ∧ post a s' := by
  induction hrun generalizing s with
  | done a => exact ⟨s, rfl, h⟩
  | ask hrun ih =>
      obtain ⟨hfirst, hrest⟩ := List.forall_mem_cons.mp hl
      obtain ⟨s₁, hstep, hsafe⟩ := h _ hfirst
      obtain ⟨s', hwatch, hpost⟩ := ih hsafe hrest
      refine ⟨s', ?_, hpost⟩
      rw [Monitor.watch, hstep]
      exact hwatch

theorem Safe.mono {p : Dialogue Q R α} {s : σ} {post post' : α → σ → Prop} (h : p.Safe m s post)
    (hpost : ∀ a s', post a s' → post' a s') : p.Safe m s post' := by
  induction p generalizing s with
  | done a => exact hpost a s h
  | ask q next ih =>
      intro r hr
      obtain ⟨s', hstep, hsafe⟩ := h r hr
      exact ⟨s', hstep, ih r hsafe⟩

/-- A monitor that trusts the world with less. -/
theorem Safe.distrust {p : Dialogue Q R α} {s : σ} {post : α → σ → Prop} (h : p.Safe m s post)
    (m' : Monitor Q R σ) (hstep : m'.step = m.step)
    (hallows : ∀ q r, m'.allows q r → m.allows q r) :
    p.Safe m' s post := by
  induction p generalizing s with
  | done a => exact h
  | ask q next ih =>
      intro r hr
      obtain ⟨s', hs', hsafe⟩ := h r (hallows q r hr)
      exact ⟨s', hstep ▸ hs', ih r hsafe⟩

/-- What is safe with a record is so without. -/
theorem Safe.unrecorded {p : Dialogue Q R α} {s : σ} {seen : List (Q × R)}
    {post : α → σ × List (Q × R) → Prop} (h : p.Safe m.recorded (s, seen) post) :
    p.Safe m s fun a s' => ∃ seen', post a (s', seen') := by
  induction p generalizing s seen with
  | done a => exact ⟨seen, h⟩
  | ask q next ih =>
      intro r hr
      obtain ⟨_, hstep, hsafe⟩ := h r hr
      obtain ⟨s', hs', rfl⟩ := Option.map_eq_some_iff.mp hstep
      exact ⟨s', hs', ih r hsafe⟩

theorem safe_bind {p : Dialogue Q R α} {f : α → Dialogue Q R β} {s : σ} {post : β → σ → Prop} :
    (p.bind f).Safe m s post ↔ p.Safe m s fun a s' => (f a).Safe m s' post := by
  induction p generalizing s with
  | done a => exact Iff.rfl
  | ask q next ih =>
      refine forall_congr' fun r => imp_congr_right fun _ => exists_congr fun s' => ?_
      exact and_congr_right fun _ => ih r

/-! ## Giving up -/

/-- The end of an attempt: `gaveUp` where it gave up, else `post`. -/
def Ends (gaveUp : σ → Prop) (post : α → σ → Prop) (o : Option α) (s : σ) : Prop :=
  o.elim (gaveUp s) fun a => post a s

/-- The attempt is safe, and ends in `post` unless it gives up. -/
def Tries (m : Monitor Q R σ) (gaveUp : σ → Prop) (p : Attempt Q R α) (s : σ)
    (post : α → σ → Prop) :
    Prop := p.run.Safe m s (Ends gaveUp post)

variable {gaveUp : σ → Prop}

theorem tries_pure {a : α} {s : σ} {post : α → σ → Prop} (h : post a s) :
    Tries m gaveUp (pure a : Attempt Q R α) s post := h

/-- One attempt after the other. -/
theorem tries_bind {p : Attempt Q R α} {f : α → Attempt Q R β} {s : σ} {post : β → σ → Prop}
    (h : Tries m gaveUp p s fun a s' => Tries m gaveUp (f a) s' post) :
    Tries m gaveUp (p >>= f) s post := by
  refine safe_bind.mpr (Safe.mono h ?_)
  intro o s' ho
  cases o with
  | none => exact ho
  | some a => exact ho

theorem Tries.mono {p : Attempt Q R α} {s : σ} {post post' : α → σ → Prop}
    (h : Tries m gaveUp p s post) (hpost : ∀ a s', post a s' → post' a s') :
    Tries m gaveUp p s post' := by
  refine Safe.mono h ?_
  intro o s' ho
  cases o with
  | none => exact ho
  | some a => exact hpost a s' ho

/-- The rule for a checked request, by what the answer is. -/
theorem tries_checked {bad : R → Bool} {q : Q} {s : σ} {post : R → σ → Prop}
    (h : ∀ r, m.allows q r → ∃ s', m.step s q r = some s' ∧
      if bad r then gaveUp s' else post r s') : Tries m gaveUp (checked bad q) s post := by
  intro r hr
  obtain ⟨s', hstep, hpost⟩ := h r hr
  refine ⟨s', hstep, ?_⟩
  show Ends gaveUp post (if bad r then none else some r) s'
  cases hbad : bad r with
  | true =>
      rw [hbad, if_pos rfl] at hpost
      exact hpost
  | false =>
      rw [hbad, if_neg Bool.false_ne_true] at hpost
      exact hpost

/-- An unchecked request in an attempt. -/
theorem tries_request {q : Q} {s : σ} {post : R → σ → Prop}
    (h : ∀ r, m.allows q r → ∃ s', m.step s q r = some s' ∧ post r s') :
    Tries m gaveUp (OptionT.lift (request q)) s post := by
  intro r hr
  exact h r hr

/-- A loop over a list, from an invariant of its rounds. -/
theorem tries_forM {p : α → Attempt Q R PUnit} {inv : List α → σ → Prop} {l : List α} {s : σ}
    (h : inv l s)
    (hround : ∀ a rest s, inv (a :: rest) s → Tries m gaveUp (p a) s fun _ => inv rest) :
    Tries m gaveUp (l.forM p) s fun _ => inv [] := by
  induction l generalizing s with
  | nil => exact h
  | cons a l ih => exact tries_bind ((hround a l s h).mono fun _ s' hs => ih hs)

theorem tries_foldlM {p : β → α → Attempt Q R β} {inv : List α → β → σ → Prop}
    {l : List α} {b : β} {s : σ} (h : inv l b s)
    (hround : ∀ a rest b s, inv (a :: rest) b s → Tries m gaveUp (p b a) s fun b' => inv rest b') :
    Tries m gaveUp (l.foldlM p b) s fun b' => inv [] b' := by
  induction l generalizing b s with
  | nil => exact h
  | cons a l ih => exact tries_bind ((hround a l b s h).mono fun _ _ hs => ih hs)

end Dialogue
end FH8852
