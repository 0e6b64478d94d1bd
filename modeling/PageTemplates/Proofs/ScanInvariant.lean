import PageTemplates.Proofs.SubstitutionSteps

/-!
# What a scan keeps

The open braces of a scan are a function of the text it has read.  `pending`
computes them: an open brace is put on the stack and a closing brace takes one
off.  A replacement brings the scan back to an open brace, and there the stack
is the one it was when that brace was met (`exists_of_pending_eq_cons`).

`Scan.Sound` says that the positions kept by a scan are right and that the part
it has read is normal.  Every move keeps this, and a move that replaces is a
step on the text (`Scan.step_follows`).  At the end of the text all of it is
normal.  The count of replacements is the number of steps, and since the order
of the steps does not matter, the budget suffices exactly when it suffices for
some order (`Scan.run_eq_some_iff`).

`substitute_normalizes` puts this together.
-/

namespace PageTemplates

open Substitution

/-! ## Open braces -/

/-- How many characters stand in front of each open brace of a text, innermost
brace first.  The text is given last character first. -/
def pending : Text → List Nat
  | [] => []
  | c :: before =>
    if c = '{' then before.length :: pending before
    else if c = '}' then (pending before).tail
    else pending before

@[simp] theorem pending_open (before : Text) :
    pending ('{' :: before) = before.length :: pending before := rfl

@[simp] theorem pending_close (before : Text) :
    pending ('}' :: before) = (pending before).tail := rfl

theorem pending_plain {c : Char} (noOpen : c ≠ '{') (noClose : c ≠ '}') (before : Text) :
    pending (c :: before) = pending before := by
  simp [pending, noOpen, noClose]

/-- A text without braces leaves the open braces as they are. -/
theorem pending_append_of_not_mem {chars : Text} (noOpen : '{' ∉ chars) (noClose : '}' ∉ chars)
    (before : Text) : pending (chars ++ before) = pending before := by
  induction chars with
  | nil => rfl
  | cons c chars ih =>
    simp only [List.mem_cons, not_or] at noOpen noClose
    rw [List.cons_append, pending_plain (Ne.symm noOpen.1) (Ne.symm noClose.1),
      ih noOpen.2 noClose.2]

/-- The braces behind a name are those of the text in front of it. -/
theorem pending_name {name : Text} (named : Name.isVariable name = true) (front : Text) :
    pending (name.reverse ++ '{' :: front) = front.length :: pending front := by
  rw [pending_append_of_not_mem, pending_open]
  · simpa using Placeholder.open_not_mem named
  · simpa using Placeholder.close_not_mem named

/-- The innermost open brace stands in the text, and those further out are the
open braces of the text in front of it. -/
theorem exists_of_pending_eq_cons {before : Text} {brace : Nat} {outer : List Nat}
    (innermost : pending before = brace :: outer) :
    ∃ behind front, before = behind ++ '{' :: front ∧ front.length = brace ∧
      pending front = outer := by
  -- The induction is on the length: a closing brace hides the innermost brace of a shorter text.
  induction size : before.length using Nat.strongRecOn generalizing before brace outer with
  | _ n ih =>
    subst size
    cases before with
    | nil => cases innermost
    | cons c before =>
      by_cases isOpen : c = '{'
      · subst isOpen
        obtain ⟨rfl, rfl⟩ := List.cons.inj innermost
        exact ⟨[], before, rfl, rfl, rfl⟩
      by_cases isClose : c = '}'
      · subst isClose
        rw [pending_close] at innermost
        cases inner : pending before with
        | nil =>
          rw [inner] at innermost
          cases innermost
        | cons hidden rest =>
          rw [inner, List.tail_cons] at innermost
          subst innermost
          obtain ⟨closed, front, rfl, -, shorter⟩ := ih _ (by simp) inner rfl
          obtain ⟨between, outside, rfl, placed, left⟩ := ih _ (by simp; omega) shorter rfl
          exact ⟨'}' :: (closed ++ '{' :: between), outside, by simp, placed, left⟩
      · rw [pending_plain isOpen isClose] at innermost
        obtain ⟨behind, front, rfl, placed, left⟩ := ih _ (by simp) innermost rfl
        exact ⟨c :: behind, front, rfl, placed, left⟩

/-! ## Normal texts -/

theorem Substitution.Normal.front {lookup : Text → Option Text} {front behind : Text}
    (normal : Normal lookup (front ++ behind)) : Normal lookup front := by
  intro before name after same named
  exact normal before name (after ++ behind) (by simp [same]) named

/-- A character makes a normal text worse only if it closes a resolvable placeholder. -/
theorem Substitution.Normal.snoc {lookup : Text → Option Text} {text : Text} {c : Char}
    (normal : Normal lookup text)
    (closes : ∀ before name, text ++ [c] = before ++ '{' :: (name ++ ['}']) →
      Name.isVariable name = true → lookup name = none) : Normal lookup (text ++ [c]) := by
  intro before name after same named
  rcases List.eq_nil_or_concat after with rfl | ⟨after, last, rfl⟩
  · exact closes before name same named
  · refine normal before name after ?_ named
    have shape : text ++ [c] = before ++ '{' :: (name ++ '}' :: after) ++ [last] := by
      simpa using same
    exact (List.append_inj' shape rfl).1

namespace Scan

variable {lookup : Text → Option Text}

/-! ## The invariant -/

/-- The positions of a scan are those of the text it has read, and that text is
normal. -/
structure Sound (lookup : Text → Option Text) (scan : Scan) : Prop where
  /-- The size is the number of characters read. -/
  size : scan.size = scan.before.length
  /-- The open braces are those of the characters read. -/
  opened : scan.opened = pending scan.before
  /-- What has been read is normal. -/
  normal : Normal lookup scan.before.reverse

theorem sound_start (lookup : Text → Option Text) (text : Text) : (start text).Sound lookup :=
  ⟨rfl, rfl, normal_of_not_mem (by simp [start])⟩

theorem text_advance {c : Char} {rest : Text} {scan : Scan} (unread : scan.rest = c :: rest) :
    (scan.advance c rest).text = scan.text := by
  simp [text, advance, unread]

/-- What a move may do: end at a normal text, read on in the same text, or do a step. -/
def Move.Follows (lookup : Text → Option Text) (scan : Scan) : Move → Prop
  | .finished => Normal lookup scan.text
  | .read next => next.Sound lookup ∧ next.text = scan.text
  | .replaced next => next.Sound lookup ∧ Step lookup scan.text next.text

/-! ## Names behind braces -/

/-- The name behind an open brace is all that has been read since. -/
theorem nameBehind?_eq_some {scan : Scan} {front behind name : Text}
    (size : scan.size = scan.before.length) (read : scan.before = behind ++ '{' :: front)
    (found : scan.nameBehind? front.length = some name) : behind = name.reverse := by
  simp only [nameBehind?] at found
  split at found
  · next whole =>
    obtain rfl := Option.some.inj found
    have long : (scan.before.takeWhile Name.isVariableChar).length = behind.length := by
      rw [size, read] at whole
      rw [read]
      simp only [List.length_append, List.length_cons] at whole
      omega
    have head : scan.before.takeWhile Name.isVariableChar <+: scan.before :=
      List.takeWhile_prefix _
    rw [List.reverse_reverse, List.prefix_iff_eq_take.1 head, long, read, List.take_left']
    rfl
  · cases found

/-- A variable name behind an open brace is found. -/
theorem nameBehind?_name {scan : Scan} {front name : Text} (named : Name.isVariable name = true)
    (size : scan.size = scan.before.length) (read : scan.before = name.reverse ++ '{' :: front) :
    scan.nameBehind? front.length = some name := by
  have all : ∀ c ∈ name.reverse, Name.isVariableChar c = true := by
    intro c member
    exact Name.isVariableChar_of_mem named (by simpa using member)
  have taken : scan.before.takeWhile Name.isVariableChar = name.reverse := by
    rw [read, List.takeWhile_append_of_pos all]
    simp [show Name.isVariableChar '{' = false by decide]
  have whole : front.length + 1 + name.reverse.length = scan.size := by
    rw [size, read]
    simp only [List.length_append, List.length_cons]
    omega
  simp only [nameBehind?, taken]
  rw [if_pos whole, List.reverse_reverse]

theorem valueOf_eq_some {name value : Text} (found : valueOf lookup name = some value) :
    Name.isVariable name = true ∧ lookup name = some value := by
  unfold valueOf at found
  split at found
  · next named => exact ⟨named, found⟩
  · cases found

theorem valueOf_name {name : Text} (named : Name.isVariable name = true) :
    valueOf lookup name = lookup name := by
  simp [valueOf, named]

/-! ## One move -/

/-- Reading a character that closes nothing keeps the invariant. -/
theorem Sound.read {scan : Scan} {c : Char} {rest : Text} {opened : List Nat}
    (sound : scan.Sound lookup) (braces : opened = pending (c :: scan.before))
    (closes : ∀ before name, scan.before.reverse ++ [c] = before ++ '{' :: (name ++ ['}']) →
      Name.isVariable name = true → lookup name = none) :
    Sound lookup { scan.advance c rest with opened := opened } where
  size := by simp [advance, sound.size]
  opened := braces
  normal := by simpa [advance] using sound.normal.snoc closes

/-- Only a closing brace ends a placeholder. -/
theorem not_closed {c : Char} {before front name : Text} (noClose : c ≠ '}') :
    before ++ [c] ≠ front ++ '{' :: (name ++ ['}']) := by
  intro same
  have shape : before ++ [c] = front ++ '{' :: name ++ ['}'] := by simpa using same
  exact noClose (List.singleton_inj.1 (List.append_inj' shape rfl).2)

/-- A placeholder that ends here has been read from the innermost open brace on. -/
theorem Sound.before_of_closed {scan : Scan} {front name : Text}
    (same : scan.before.reverse ++ ['}'] = front ++ '{' :: (name ++ ['}'])) :
    scan.before = name.reverse ++ '{' :: front.reverse := by
  have shape : scan.before.reverse ++ ['}'] = front ++ '{' :: name ++ ['}'] := by simpa using same
  have read := congrArg List.reverse (List.append_inj' shape rfl).1
  simpa using read

/-- What stands in front of an open brace is kept. -/
theorem drop_front {scan : Scan} {front inner : Text} (size : scan.size = scan.before.length)
    (read : scan.before = inner ++ '{' :: front) :
    scan.before.drop (scan.size - front.length) = front := by
  have back : scan.size - front.length = (inner ++ ['{']).length := by
    rw [size, read]
    simp only [List.length_append, List.length_cons, List.length_nil]
    omega
  rw [back, read, List.append_cons _ '{' front, List.drop_left]

/-- A replacement is a step, and brings the scan back to a text it has read. -/
theorem Sound.replace {scan : Scan} {brace : Nat} {outer : List Nat} {name value rest : Text}
    (sound : scan.Sound lookup) (braces : scan.opened = brace :: outer)
    (unread : scan.rest = '}' :: rest) (found : scan.nameBehind? brace = some name)
    (valued : valueOf lookup name = some value) :
    (scan.replace brace outer value rest).Sound lookup ∧
      Step lookup scan.text (scan.replace brace outer value rest).text := by
  obtain ⟨behind, front, read, rfl, inFront⟩ :=
    exists_of_pending_eq_cons (sound.opened.symm.trans braces)
  obtain rfl := nameBehind?_eq_some sound.size read found
  obtain ⟨named, known⟩ := valueOf_eq_some valued
  have kept := drop_front sound.size read
  have normal := sound.normal
  rw [read] at normal
  constructor
  · refine ⟨?_, ?_, ?_⟩
    · simp [Scan.replace, kept]
    · simp [Scan.replace, kept, inFront]
    · have whole : Normal lookup (front.reverse ++ '{' :: name) := by simpa using normal
      simpa [Scan.replace, kept] using whole.front
  · have before : scan.text = front.reverse ++ '{' :: (name ++ '}' :: rest) := by
      simp [text, read, unread]
    have after : (scan.replace front.length outer value rest).text =
        front.reverse ++ (value ++ rest) := by
      simp [text, Scan.replace, kept]
    rw [before, after]
    exact .replace front.reverse rest named known

/-- Every move keeps the invariant and is allowed. -/
theorem step_follows {scan : Scan} (sound : scan.Sound lookup) :
    (scan.step lookup).Follows lookup scan := by
  unfold step
  split
  · next read => simpa [Move.Follows, text, read] using sound.normal
  · next c rest unread =>
    have same := text_advance unread
    split
    · next isOpen =>
      subst isOpen
      refine ⟨sound.read ?_ fun _ _ closed => absurd closed (not_closed (by decide)), same⟩
      rw [pending_open, sound.size, sound.opened]
    split
    · next isClose =>
      subst isClose
      split
      · next none =>
        refine ⟨sound.read (by rw [pending_close, ← sound.opened, none]; rfl) ?_, same⟩
        intro front name closed named
        have braces := sound.opened
        rw [none, Sound.before_of_closed closed, pending_name named] at braces
        cases braces
      · next brace outer braces =>
        split
        · next value found =>
          obtain ⟨name, found, valued⟩ := Option.bind_eq_some_iff.1 found
          exact sound.replace braces unread found valued
        · next missing =>
          refine ⟨sound.read (by rw [pending_close, ← sound.opened, braces]; rfl) ?_, same⟩
          intro front name closed named
          have read := Sound.before_of_closed closed
          have here := sound.opened
          rw [braces, read, pending_name named] at here
          obtain rfl := (List.cons.inj here).1
          rw [nameBehind?_name named sound.size read, Option.bind_some, valueOf_name named]
            at missing
          exact missing
    · next noOpen noClose =>
      refine ⟨sound.read ?_ fun _ _ closed => absurd closed (not_closed noClose), same⟩
      rw [pending_plain noOpen noClose, ← sound.opened]

/-! ## A whole scan -/

theorem settle_of_finished {scan : Scan} (move : scan.step lookup = .finished) :
    scan.settle lookup = .inl scan.text := by
  rw [settle]
  split <;> simp_all

theorem settle_of_read {scan next : Scan} (move : scan.step lookup = .read next) :
    scan.settle lookup = next.settle lookup := by
  rw [settle]
  split <;> simp_all

theorem settle_of_replaced {scan next : Scan} (move : scan.step lookup = .replaced next) :
    scan.settle lookup = .inr next := by
  rw [settle]
  split <;> simp_all

/-- What reading on may lead to: the text as it was, which is normal, or a step of it. -/
def Settles (lookup : Text → Option Text) (scan : Scan) : Text ⊕ Scan → Prop
  | .inl text => Normal lookup text ∧ text = scan.text
  | .inr next => next.Sound lookup ∧ Step lookup scan.text next.text

/-- Reading on ends at a normal text or does a step. -/
theorem settle_settles {scan : Scan} (sound : scan.Sound lookup) :
    Settles lookup scan (scan.settle lookup) := by
  induction scan using settle.induct lookup with
  | case1 scan move =>
    have normal := step_follows sound
    rw [move] at normal
    rw [settle_of_finished move]
    exact ⟨normal, rfl⟩
  | case2 scan next move ih =>
    have follows := step_follows sound
    rw [move] at follows
    obtain ⟨later, same⟩ := follows
    have settled := ih later
    rw [settle_of_read move]
    -- The text is the same, so what holds of the next scan holds of this one.
    cases ended : next.settle lookup with
    | inl text =>
      rw [ended] at settled
      exact ⟨settled.1, settled.2.trans same⟩
    | inr replaced =>
      rw [ended] at settled
      exact ⟨settled.1, same ▸ settled.2⟩
  | case3 scan next move =>
    have follows := step_follows sound
    rw [move] at follows
    rw [settle_of_replaced move]
    exact follows

/-- A scan that settles at a text gives it within any budget. -/
theorem run_eq_some_iff_of_settled {budget : Nat} {scan : Scan} {text : Text}
    (ended : scan.settle lookup = .inl text) (normal : Normal lookup text)
    (same : text = scan.text) (out : Text) :
    run lookup budget scan = some out ↔
      ∃ n ≤ budget, Steps lookup n scan.text out ∧ Normal lookup out := by
  have given : run lookup budget scan = some text := by
    rw [run, ended]
  subst same
  rw [given, Option.some.injEq]
  constructor
  · rintro rfl
    exact ⟨0, Nat.zero_le budget, .none _, normal⟩
  · rintro ⟨n, -, steps, -⟩
    exact (steps.eq_of_normal normal).2.symm

/-- A scan gives a text exactly when the text is normal and reached within the budget. -/
theorem run_eq_some_iff {budget : Nat} {scan : Scan} (sound : scan.Sound lookup) (out : Text) :
    run lookup budget scan = some out ↔
      ∃ n ≤ budget, Steps lookup n scan.text out ∧ Normal lookup out := by
  induction budget generalizing scan with
  | zero =>
    have settles := settle_settles sound
    cases ended : scan.settle lookup with
    | inl text =>
      rw [ended] at settles
      exact run_eq_some_iff_of_settled ended settles.1 settles.2 out
    | inr next =>
      rw [ended] at settles
      rw [run, ended]
      constructor
      · intro nothing
        cases nothing
      · rintro ⟨n, few, steps, normal⟩
        obtain ⟨m, rfl, -⟩ := steps.rest_of_step normal settles.2
        omega
  | succ budget ih =>
    have settles := settle_settles sound
    cases ended : scan.settle lookup with
    | inl text =>
      rw [ended] at settles
      exact run_eq_some_iff_of_settled ended settles.1 settles.2 out
    | inr next =>
      rw [ended] at settles
      rw [run, ended]
      refine (ih settles.1).trans ?_
      constructor
      · rintro ⟨n, few, steps, normal⟩
        exact ⟨n + 1, by omega, .next settles.2 steps, normal⟩
      · rintro ⟨n, few, steps, normal⟩
        obtain ⟨m, rfl, rest⟩ := steps.rest_of_step normal settles.2
        exact ⟨m, by omega, rest, normal⟩

end Scan

/-! ## Substitution -/

variable {lookup : Text → Option Text} {limit : Nat} {text out : Text}

theorem substitute?_eq_some_iff : substitute? lookup limit text = some out ↔
    ∃ n ≤ limit, Steps lookup n text out ∧ Normal lookup out :=
  Scan.run_eq_some_iff (Scan.sound_start lookup text) out

theorem substitute_eq_ok_iff : substitute lookup limit text = .ok out ↔
    ∃ n ≤ limit, Steps lookup n text out ∧ Normal lookup out := by
  rw [← substitute?_eq_some_iff, substitute]
  cases substitute? lookup limit text <;> simp

/-- Substitution never fails but for its limit. -/
theorem substitute_eq_ok_or_error : (∃ out, substitute lookup limit text = .ok out) ∨
    substitute lookup limit text = .error (.substitutionLimit limit) := by
  rw [substitute]
  cases substitute? lookup limit text <;> simp

/-- Substitution gives the normal text that steps in any order lead to, if one
is reached within the limit, and fails otherwise.  Every order takes the same
number of steps to the same text, and a normal text is given back as it is. -/
theorem substitute_normalizes (lookup : Text → Option Text) (limit : Nat) (text : Text) :
    (∀ out, substitute lookup limit text = .ok out ↔
      ∃ n ≤ limit, Steps lookup n text out ∧ Normal lookup out) ∧
    (∀ n out, Steps lookup n text out → Normal lookup out →
      ∀ m between, Steps lookup m text between →
        m ≤ n ∧ Steps lookup (n - m) between out ∧
          (Normal lookup between → m = n ∧ between = out)) ∧
    (substitute lookup limit text = .error (.substitutionLimit limit) ↔
      ¬ ∃ out, ∃ n ≤ limit, Steps lookup n text out ∧ Normal lookup out) ∧
    ∀ out, substitute lookup limit text = .ok out → substitute lookup 0 out = .ok out := by
  refine ⟨fun out => substitute_eq_ok_iff, ?_, ?_, ?_⟩
  · intro n out steps normal m between other
    obtain ⟨enough, rest⟩ := steps.rest_of_normal normal other
    refine ⟨enough, rest, fun ended => ?_⟩
    obtain ⟨none, same⟩ := rest.eq_of_normal ended
    exact ⟨by omega, same.symm⟩
  · constructor
    · rintro failed ⟨out, reached⟩
      rw [substitute_eq_ok_iff.2 reached] at failed
      cases failed
    · intro unreached
      rcases substitute_eq_ok_or_error with ⟨out, filled⟩ | failed
      · exact absurd ⟨out, substitute_eq_ok_iff.1 filled⟩ unreached
      · exact failed
  · intro out filled
    obtain ⟨n, -, -, normal⟩ := substitute_eq_ok_iff.1 filled
    exact substitute_eq_ok_iff.2 ⟨0, Nat.le_refl 0, .none out, normal⟩

/-- A variable whose value closes a brace that stood open in front of it. -/
def lateBrace : Text → Option Text
  | ['X'] => some "Y\x7d".toList
  | ['Y'] => some "done".toList
  | _ => none

theorem substitute_lateBrace :
    Steps lateBrace 2 "\x7b\x7bX\x7d".toList "done".toList ∧
      Normal lateBrace "done".toList ∧
      substitute lateBrace 2 "\x7b\x7bX\x7d".toList = .ok "done".toList ∧
      substitute lateBrace 0 "done".toList = .ok "done".toList := by
  have first : Step lateBrace "\x7b\x7bX\x7d".toList "\x7bY\x7d".toList :=
    .replace ['{'] [] (by decide : Name.isVariable ['X'] = true)
      (by decide : lateBrace ['X'] = some ['Y', '}'])
  have second : Step lateBrace "\x7bY\x7d".toList "done".toList :=
    .replace [] [] (by decide : Name.isVariable ['Y'] = true)
      (by decide : lateBrace ['Y'] = some "done".toList)
  have steps : Steps lateBrace 2 "\x7b\x7bX\x7d".toList "done".toList :=
    .next first (.next second (.none _))
  have normal : Normal lateBrace "done".toList := normal_of_not_mem (by decide)
  obtain ⟨reached, -, -, again⟩ := substitute_normalizes lateBrace 2 "\x7b\x7bX\x7d".toList
  have filled := (reached _).2 ⟨2, Nat.le_refl 2, steps, normal⟩
  exact ⟨steps, normal, filled, again _ filled⟩

end PageTemplates
