import PageTemplates.Proofs.ScanInvariant

/-!
# What a substitution looks up

A substitution looks up the names that stand in a placeholder of the text, and
those that come to stand in one after some steps.  It asks for no others, so two
lookups that agree on these names give the same result (`substitute_congr`).
-/

namespace PageTemplates

namespace Substitution

variable {lookup other : Text → Option Text} {name text out : Text} {n : Nat}

/-- A name stands in a placeholder of a text, at once or after some steps. -/
inductive Asks (lookup : Text → Option Text) (name : Text) : (text : Text) → Prop where
  | now (before after : Text) (named : Name.isVariable name = true) :
      Asks lookup name (before ++ '{' :: (name ++ '}' :: after))
  | later {text next : Text} (step : Step lookup text next) (asks : Asks lookup name next) :
      Asks lookup name text

theorem Asks.isVariable (asks : Asks lookup name text) : Name.isVariable name = true := by
  induction asks with
  | now before after named => exact named
  | later _ _ ih => exact ih

theorem Asks.mem (asks : Asks lookup name text) : '{' ∈ text := by
  cases asks with
  | now => simp
  | later step =>
    cases step with
    | replace => simp

theorem Asks.of_steps (steps : Steps lookup n text out) (asks : Asks lookup name out) :
    Asks lookup name text := by
  induction steps with
  | none => exact asks
  | next step _ ih => exact .later step (ih asks)

theorem Steps.congr (steps : Steps lookup n text out)
    (same : ∀ name, Asks lookup name text → other name = lookup name) :
    Steps other n text out := by
  induction steps with
  | none => exact .none _
  | next step _ ih =>
    have rest := ih fun name asks => same name (.later step asks)
    cases step with
    | replace before after named known =>
      have there := (same _ (.now before after named)).trans known
      exact .next (.replace before after named there) rest

theorem Steps.congr_symm (steps : Steps other n text out)
    (same : ∀ name, Asks lookup name text → other name = lookup name) :
    Steps lookup n text out := by
  induction steps with
  | none => exact .none _
  | next step _ ih =>
    cases step with
    | replace before after named known =>
      -- `same` knows the names that `lookup` asks for, so the step is taken with it first.
      have here : Step lookup _ _ :=
        .replace before after named ((same _ (.now before after named)).symm.trans known)
      exact .next here (ih fun name asks => same name (.later here asks))

theorem Normal.congr (same : ∀ name, Asks lookup name text → other name = lookup name) :
    Normal other text ↔ Normal lookup text := by
  constructor
  · rintro normal before name after rfl named
    exact (same name (.now before after named)).symm.trans (normal before name after rfl named)
  · rintro normal before name after rfl named
    exact (same name (.now before after named)).trans (normal before name after rfl named)

/-- Substitution depends on the values of the names that are asked for. -/
theorem substitute_congr (same : ∀ name, Asks lookup name text → other name = lookup name)
    (limit : Nat) : substitute other limit text = substitute lookup limit text := by
  have settles : ∀ out, substitute other limit text = .ok out ↔
      substitute lookup limit text = .ok out := by
    intro out
    rw [substitute_eq_ok_iff, substitute_eq_ok_iff]
    constructor
    · rintro ⟨n, few, steps, normal⟩
      have back := steps.congr_symm same
      have still := Normal.congr fun name asks => same name (.of_steps back asks)
      exact ⟨n, few, back, still.1 normal⟩
    · rintro ⟨n, few, steps, normal⟩
      have still := Normal.congr fun name asks => same name (.of_steps steps asks)
      exact ⟨n, few, steps.congr same, still.2 normal⟩
  have ends : ∀ values, (∃ out, substitute values limit text = .ok out) ∨
      substitute values limit text = .error (.substitutionLimit limit) :=
    fun _ => substitute_eq_ok_or_error
  rcases ends lookup with ⟨out, done⟩ | failed
  · rw [done, (settles out).2 done]
  · rcases ends other with ⟨out, done⟩ | failed'
    · cases failed.symm.trans ((settles out).1 done)
    · rw [failed, failed']

end Substitution

end PageTemplates
