import PageTemplates.Page
import PageTemplates.Proofs.ScanInvariant

/-!
# Filling rows one by one

A list is rendered by filling the text of a row again and again and appending what
comes out.  Filling all rows at once gives the same, unless an open brace of one
row meets a closing brace of a later one (`Straddles`).  What is filled is normal,
and two normal texts side by side make a normal text exactly if no placeholder
straddles their join (`normal_append_iff`).

While the rows are filled together, the braces that the first one leaves open are
paired with closing braces of the second one and of its values.  That changes
nothing, for the steps that fill the rows apart can be done in the joined text
(`Steps.beside`), and every order of steps leads to the same normal text.

`substitute_append_iff` is the join of two texts and `substitute_rows_iff` that of
any number of rows.  `Page.foldl_write` says that what is appended row by row is what
would be appended at once.
-/

namespace PageTemplates

open Substitution

/-- A resolvable placeholder begins in the first text and ends in the second. -/
def Straddles (lookup : Text → Option Text) (front behind : Text) : Prop :=
  ∃ before start finish after, front = before ++ '{' :: start ∧ behind = finish ++ '}' :: after ∧
    Name.isVariable (start ++ finish) = true ∧ lookup (start ++ finish) ≠ none

variable {lookup : Text → Option Text}

/-! ## Normal texts side by side -/

theorem Substitution.Normal.behind {front behind : Text}
    (normal : Normal lookup (front ++ behind)) : Normal lookup behind := by
  intro before name after same named
  exact normal (front ++ before) name after (by simp [same]) named

theorem Straddles.not_normal {front behind : Text} (straddles : Straddles lookup front behind) :
    ¬ Normal lookup (front ++ behind) := by
  obtain ⟨before, start, finish, after, rfl, rfl, named, known⟩ := straddles
  intro normal
  exact known (normal before (start ++ finish) after (by simp) named)

/-- A name that straddles the join of two texts has no value if nothing resolvable does. -/
theorem eq_none_of_not_straddles {before start finish after : Text}
    (apart : ¬ Straddles lookup (before ++ '{' :: start) (finish ++ '}' :: after))
    (named : Name.isVariable (start ++ finish) = true) : lookup (start ++ finish) = none :=
  Decidable.not_not.1 fun known => apart ⟨before, start, finish, after, rfl, rfl, named, known⟩

/-- Two normal texts make a normal text unless a resolvable placeholder straddles their join. -/
theorem normal_append_iff {front behind : Text} :
    Normal lookup (front ++ behind) ↔
      Normal lookup front ∧ Normal lookup behind ∧ ¬ Straddles lookup front behind := by
  refine ⟨fun normal => ⟨normal.front, normal.behind, fun across => across.not_normal normal⟩, ?_⟩
  rintro ⟨first, second, apart⟩ before name after same named
  -- The placeholder stands behind the join, or its open brace stands in front of it.
  rcases List.append_eq_append_iff.1 same with ⟨gap, rfl, rest⟩ | ⟨gap, rfl, rest⟩
  · exact second gap name after rest named
  cases gap with
  | nil => exact second [] name after rest.symm named
  | cons c gap =>
    obtain rfl : '{' = c := (List.cons.inj rest).1
    have tail : name ++ '}' :: after = gap ++ behind := (List.cons.inj rest).2
    rcases List.append_eq_append_iff.1 tail with ⟨more, rfl, closed⟩ | ⟨finish, rfl, closes⟩
    · cases more with
      | nil =>
        obtain rfl : '}' :: after = behind := closed
        have ends : ¬ Straddles lookup (before ++ '{' :: name) ([] ++ '}' :: after) := by
          simpa using apart
        simpa using eq_none_of_not_straddles ends (by simpa using named)
      | cons d more =>
        obtain rfl : '}' = d := (List.cons.inj closed).1
        exact first before name more rfl named
    · subst closes
      exact eq_none_of_not_straddles apart named

/-! ## Texts filled one by one -/

/-- Two texts that are filled one by one are filled together within both limits. -/
theorem substitute_append {n m : Nat} {front behind front' behind' : Text}
    (first : substitute lookup n front = .ok front')
    (second : substitute lookup m behind = .ok behind')
    (apart : ¬ Straddles lookup front' behind') :
    substitute lookup (n + m) (front ++ behind) = .ok (front' ++ behind') := by
  obtain ⟨i, few, steps, normal⟩ := substitute_eq_ok_iff.1 first
  obtain ⟨j, few', steps', normal'⟩ := substitute_eq_ok_iff.1 second
  exact substitute_eq_ok_iff.2 ⟨i + j, Nat.add_le_add few few', steps.beside steps',
    normal_append_iff.2 ⟨normal, normal', apart⟩⟩

/-- What a text is filled to has no placeholder that straddles a place in it. -/
theorem not_straddles_of_substitute {limit : Nat} {text front behind : Text}
    (filled : substitute lookup limit text = .ok (front ++ behind)) :
    ¬ Straddles lookup front behind := by
  obtain ⟨-, -, -, normal⟩ := substitute_eq_ok_iff.1 filled
  exact (normal_append_iff.1 normal).2.2

/-! ## Rows -/

/-- Texts that are appended one after the other are appended together. -/
theorem Page.write_write (target first second : Text) (page : Page) :
    (page.write target first true).write target second true =
      page.write target (first ++ second) true := by
  have before : (page.write target first true).namespace? target =
      some ((page.namespace? target).getD [] ++ first) := by
    simp [Page.write, Page.assign, Page.namespace?]
  rw [Page.write, if_pos rfl, before]
  simp only [Page.write, Page.assign, if_true, Option.getD_some, Table.insert_insert,
    List.append_assoc]

theorem Page.foldl_write (target first : Text) (texts : List Text) (page : Page) :
    texts.foldl (fun page text => page.write target text true) (page.write target first true) =
      page.write target (first ++ texts.flatten) true := by
  induction texts generalizing first with
  | nil => rw [List.foldl_nil, List.flatten_nil, List.append_nil]
  | cons text texts ih =>
    rw [List.foldl_cons, write_write, ih, List.flatten_cons, List.append_assoc]

/-- A text and what it is filled to. -/
structure Row where
  text : Text
  filled : Text

/-- Rows that are filled one by one are filled together unless a placeholder straddles one of their
joins. -/
theorem substitute_rows_iff {limit : Nat} {rows : List Row}
    (each : ∀ row ∈ rows, substitute lookup limit row.text = .ok row.filled) :
    substitute lookup (rows.length * limit) (rows.flatMap Row.text) =
        .ok (rows.flatMap Row.filled) ↔
      ∀ front behind, rows = front ++ behind →
        ¬ Straddles lookup (front.flatMap Row.filled) (behind.flatMap Row.filled) := by
  constructor
  · rintro filled front behind rfl
    have joined : (front ++ behind).flatMap Row.filled =
        front.flatMap Row.filled ++ behind.flatMap Row.filled := List.flatMap_append
    rw [joined] at filled
    exact not_straddles_of_substitute filled
  · intro apart
    induction rows with
    | nil => exact substitute_eq_ok_iff.2 ⟨0, Nat.zero_le _, .none [], normal_of_not_mem nofun⟩
    | cons row rest ih =>
      obtain ⟨first, later⟩ := List.forall_mem_cons.1 each
      have inner : ∀ front behind, rest = front ++ behind →
          ¬ Straddles lookup (front.flatMap Row.filled) (behind.flatMap Row.filled) := by
        rintro front behind rfl ⟨before, start, finish, after, shape, rest⟩
        refine apart (row :: front) behind rfl
          ⟨row.filled ++ before, start, finish, after, ?_, rest⟩
        rw [List.flatMap_cons, shape, List.append_assoc]
      have join := apart [row] rest rfl
      rw [List.flatMap_singleton] at join
      rw [List.length_cons, Nat.succ_mul, Nat.add_comm]
      exact substitute_append first (ih later inner) join

/-- Two texts that are filled one by one and appended give what they give when they are filled
together, exactly if no resolvable placeholder straddles their join. -/
theorem substitute_append_iff {n m : Nat} {front behind front' behind' : Text}
    (first : substitute lookup n front = .ok front')
    (second : substitute lookup m behind = .ok behind') :
    (substitute lookup (n + m) (front ++ behind) = .ok (front' ++ behind') ↔
        ¬ Straddles lookup front' behind') ∧
      ∀ (target : Text) (page : Page),
        (page.write target front' true).write target behind' true =
          page.write target (front' ++ behind') true :=
  ⟨⟨not_straddles_of_substitute, substitute_append first second⟩,
    fun target page => page.write_write target front' behind'⟩

theorem substitute_append_lateBrace :
    substitute lateBrace 0 ['{'] = .ok ['{'] ∧
      substitute lateBrace 1 "\x7bY\x7d".toList = .ok "done".toList ∧
      ¬ Straddles lateBrace ['{'] "done".toList ∧
      substitute lateBrace 1 "\x7b\x7bY\x7d".toList = .ok "\x7bdone".toList ∧
      substitute lateBrace 1 "\x7bX\x7d".toList = .ok "Y\x7d".toList ∧
      Straddles lateBrace ['{'] "Y\x7d".toList ∧
      substitute lateBrace 1 "\x7b\x7bX\x7d".toList ≠ .ok "\x7bY\x7d".toList := by
  have front : substitute lateBrace 0 ['{'] = .ok ['{'] := by cbv
  have closed : substitute lateBrace 1 "\x7bY\x7d".toList = .ok "done".toList := by cbv
  have late : substitute lateBrace 1 "\x7bX\x7d".toList = .ok "Y\x7d".toList := by cbv
  have apart : ¬ Straddles lateBrace ['{'] "done".toList := by
    rintro ⟨before, start, finish, after, -, shape, -⟩
    have brace : '}' ∈ "done".toList := by simp [shape]
    exact absurd brace (by decide)
  have across : Straddles lateBrace ['{'] "Y\x7d".toList :=
    ⟨[], [], ['Y'], [], rfl, rfl, by decide, by decide⟩
  have joined := (substitute_append_iff front closed).1.2 apart
  have broken := mt (substitute_append_iff front late).1.1 (not_not_intro across)
  exact ⟨front, closed, apart, joined, late, across, broken⟩

end PageTemplates
