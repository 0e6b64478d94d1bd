import PageTemplates.Proofs.Nesting

/-!
# The markers that division reports

Division reports an end marker that closes nothing when it meets it, and the
begin markers that are still open when it has read all.  A nesting knows both
without rewriting a text: `Nesting.report` says what it makes of a token, and
`Nesting.waiting` where its begin markers stand.  `warnings_divide` puts the
warnings of a division together from these.
-/

namespace PageTemplates

namespace Nesting

/-- The report of a token: an end marker that does not close the innermost frame. -/
def report (nesting : Nesting) : Token → List MarkerWarning
  | .mark ⟨.ends, name⟩ =>
    if nesting.frames.head?.map Frame.name = some name then []
    else [⟨.unmatchedEnd, name, Text.utf8Length nesting.outline⟩]
  | _ => []

theorem report_begin (nesting : Nesting) (name : Text) :
    nesting.report (.mark ⟨.begins, name⟩) = [] := rfl

theorem report_end {nesting : Nesting} {frame : Frame} {outer : List Frame}
    (frames : nesting.frames = frame :: outer) :
    nesting.report (.mark ⟨.ends, frame.name⟩) = [] := by
  simp [report, frames]

theorem report_end_of_ne {nesting : Nesting} {name : Text}
    (other : nesting.frames.head?.map Frame.name ≠ some name) :
    nesting.report (.mark ⟨.ends, name⟩) =
      [⟨.unmatchedEnd, name, Text.utf8Length nesting.outline⟩] :=
  if_neg other

/-- The reports of tokens that are read one after the other. -/
def reports : Nesting → List Token → List MarkerWarning
  | _, [] => []
  | nesting, token :: tokens =>
    nesting.report token ++ (nesting.step Block.placeholder token).reports tokens

theorem reports_append (nesting : Nesting) (first second : List Token) :
    nesting.reports (first ++ second) = nesting.reports first ++
      (first.foldl (step Block.placeholder) nesting).reports second := by
  induction first generalizing nesting with
  | nil => rfl
  | cons token first ih => simp [reports, ih]

/-- Characters are not reported. -/
theorem reports_plain (nesting : Nesting) (chars : Text) :
    nesting.reports (chars.map Token.plain) = [] := by
  induction chars generalizing nesting with
  | nil => rfl
  | cons c chars ih => simp [reports, report, ih]

/-- What is reported while a text is read are end markers. -/
theorem unmatchedEnd_of_mem_reports {nesting : Nesting} {tokens : List Token}
    {warning : MarkerWarning} (member : warning ∈ nesting.reports tokens) :
    warning.fault = .unmatchedEnd := by
  induction tokens generalizing nesting with
  | nil => cases member
  | cons token tokens ih =>
    rcases List.mem_append.1 member with now | later
    · cases token with
      | plain c => cases now
      | mark marker =>
        obtain ⟨name, rfl⟩ | ⟨frame, outer, frames, rfl⟩ | ⟨name, other, rfl⟩ :=
          nesting.mark_cases marker
        · cases now
        · rw [report_end frames] at now
          cases now
        · rw [report_end_of_ne other] at now
          rw [List.mem_singleton.1 now]
    · exact ih later

theorem length_waiting (nesting : Nesting) : nesting.waiting.length = nesting.frames.length := by
  rw [waiting]
  induction nesting.frames with
  | nil => rfl
  | cons frame outer ih => rw [positions, List.length_cons, List.length_cons, ih]

end Nesting

namespace Divider

variable {divider : Divider} {nesting : Nesting}

/-- A divider notes what the nesting that it follows reports. -/
theorem Follows.warnings_meet (follows : divider.Follows nesting) (found : FoundMarker) :
    (divider.meet found).warnings =
      divider.warnings ++ (nesting.write found.before).report (.mark found.marker) := by
  obtain ⟨before, marker, rest⟩ := found
  have front := follows.append before
  have opened : divider.opened = (nesting.write before).waiting := front.opened
  obtain ⟨name, rfl⟩ | ⟨frame, outer, frames, rfl⟩ | ⟨name, other, rfl⟩ :=
    (nesting.write before).mark_cases marker
  · rw [Nesting.report_begin, List.append_nil]
    rfl
  · rw [Nesting.waiting_eq_cutFrame frames] at opened
    rw [Nesting.report_end frames, List.append_nil]
    exact (congrArg Divider.warnings (meet_end opened)).trans rfl
  · rw [Nesting.report_end_of_ne other]
    rw [← Nesting.waiting_head_name, ← opened] at other
    rw [meet_end_of_ne other]
    simp only [Divider.leave, front.bytes]

/-- A divider that has read all markers of its text has noted what they report. -/
theorem Follows.warnings_run (follows : divider.Follows nesting) :
    divider.run.warnings = divider.warnings ++ nesting.reports (Token.ofText divider.rest) := by
  induction divider using Divider.run.induct generalizing nesting with
  | case1 divider search =>
    rw [Divider.run]
    split
    · rw [Token.ofText_of_find?_eq_none search, Nesting.reports_plain, List.append_nil]
    · next found => simp_all
  | case2 divider found search ih =>
    rw [Divider.run]
    split
    · simp_all
    · next other search' =>
      obtain rfl := Option.some.inj (search.symm.trans search')
      rw [ih (follows.meet found), follows.warnings_meet found, Divider.meet_rest,
        Token.ofText_of_find?_eq_some search, Nesting.reports_append, Nesting.reports_plain,
        Nesting.foldl_plain, Nesting.reports, List.nil_append, List.append_assoc]

end Divider

/-- The warnings of a division are what the tokens of the template report, and then the begin
markers that are open at the end, outermost first. -/
theorem warnings_divide (text : Text) :
    (divide text).warnings = Nesting.start.reports (Token.ofText text) ++
      (Nesting.reading Block.placeholder text).waiting.reverse.map fun opening =>
        ⟨.unclosedBegin, opening.name, opening.offset⟩ := by
  have opened : (Divider.start text).run.opened =
      (Nesting.reading Block.placeholder text).waiting := (follows_divide text).opened
  have noted : (Divider.start text).run.warnings =
      [] ++ Nesting.start.reports (Token.ofText text) := (Divider.follows_start text).warnings_run
  rw [divide, Divider.finish, Divider.unclosed, opened, noted, List.nil_append]

/-- The warnings for begin markers. -/
def Division.unclosed (division : Division) : List MarkerWarning :=
  division.warnings.filter fun warning => warning.fault = .unclosedBegin

/-- The warnings for begin markers are those for the frames that stay open, outermost first. -/
theorem unclosed_divide (text : Text) :
    (divide text).unclosed = (Nesting.reading Block.placeholder text).waiting.reverse.map
      fun opening => ⟨.unclosedBegin, opening.name, opening.offset⟩ := by
  have ended : (Nesting.start.reports (Token.ofText text)).filter
      (fun warning => warning.fault = .unclosedBegin) = [] := by
    refine List.filter_eq_nil_iff.2 fun warning member => ?_
    simp [Nesting.unmatchedEnd_of_mem_reports member]
  rw [Division.unclosed, warnings_divide, List.filter_append, ended, List.nil_append]
  refine List.filter_eq_self.2 fun warning member => ?_
  obtain ⟨opening, -, rfl⟩ := List.mem_map.1 member
  rfl

theorem length_warnings_divide (text : Text) :
    (divide text).warnings.length = (Nesting.start.reports (Token.ofText text)).length +
      (Nesting.reading Block.placeholder text).frames.length := by
  rw [warnings_divide, List.length_append, List.length_map, List.length_reverse,
    Nesting.length_waiting]

end PageTemplates
