import PageTemplates.Proofs.Occurrences
import PageTemplates.Proofs.DivisionWarnings

/-!
# The markers that division leaves

A division cuts the two markers of each of its blocks out of the template.  The
others stay, and there is one warning for each of them.

`Nesting.remains` lists the markers that stay in the texts of a nesting.  They are
end markers, none of them ends the block that it stands in, and each of them was
reported (`Nesting.Swept`).  Reading a marker keeps this so (`Nesting.Swept.mark`),
and so does reading a text (`Nesting.Swept.foldl`).  A cut moves the markers in a
frame to the body of its block, and the placeholder that it writes makes up no
marker with what stands next to it.

Dividing the outline opens the same frames again, and nothing closes them
(`Nesting.Swept.reading_outline`), so what a division gives is divided already
(`divide_again`).  `Nesting.weight` counts the markers that were read and not
reported.  With it every marker of the template is accounted for
(`warnings_account_for_markers`).  Markers are counted by `Marker.occurrences`, which
lists every place where one stands.
-/

namespace PageTemplates

/-- No marker in a text begins a block, and none ends the block around the text. -/
def Idle (around : Option Text) (text : Text) : Prop :=
  ∀ marker ∈ Marker.all text, marker.kind = .ends ∧ around ≠ some marker.name

/-- The markers in a text, each with the name of the block around the text. -/
def Marker.within (around : Option Text) (text : Text) : List (Option Text × Marker) :=
  (Marker.all text).map fun marker => (around, marker)

namespace Nesting

/-! ## What remains in the texts -/

/-- The name of the innermost frame. -/
def around (nesting : Nesting) : Option Text := nesting.frames.head?.map Frame.name

/-- The text that the next character goes to. -/
def inner (nesting : Nesting) : Text :=
  match nesting.frames with
  | [] => nesting.outside
  | frame :: _ => frame.text

/-- The markers in all texts that have been read, each with the name of the block around it. -/
def remains (nesting : Nesting) : List (Option Text × Marker) :=
  nesting.blocks.flatMap (fun block => Marker.within (some block.name) block.body) ++
    (nesting.frames.flatMap (fun frame => Marker.within (some frame.name) frame.text) ++
      Marker.within none nesting.outside)

@[simp] theorem around_write (chars : Text) (nesting : Nesting) :
    (nesting.write chars).around = nesting.around := by
  obtain ⟨outside, frames, blocks⟩ := nesting
  cases frames <;> rfl

@[simp] theorem inner_write (chars : Text) (nesting : Nesting) :
    (nesting.write chars).inner = nesting.inner ++ chars := by
  obtain ⟨outside, frames, blocks⟩ := nesting
  cases frames <;> rfl

theorem map_name_frames_write (chars : Text) (nesting : Nesting) :
    (nesting.write chars).frames.map Frame.name = nesting.frames.map Frame.name := by
  obtain ⟨outside, frames, blocks⟩ := nesting
  cases frames <;> rfl

/-- What is written adds its markers to those that remain. -/
theorem remains_write {nesting : Nesting} {chars : Text} {found : List Marker}
    (more : Marker.all (nesting.inner ++ chars) = Marker.all nesting.inner ++ found) :
    (nesting.write chars).remains.Perm
      (nesting.remains ++ found.map fun marker => (nesting.around, marker)) := by
  have gains : Marker.within nesting.around (nesting.inner ++ chars) =
      Marker.within nesting.around nesting.inner ++
        found.map fun marker => (nesting.around, marker) := by
    rw [Marker.within, more, List.map_append]
    rfl
  generalize (found.map fun marker => (nesting.around, marker)) = fresh at gains ⊢
  obtain ⟨outside, frames, blocks⟩ := nesting
  cases frames with
  | nil =>
    have gains : Marker.within none (outside ++ chars) = Marker.within none outside ++ fresh :=
      gains
    simp [remains, write, gains]
  | cons frame outer =>
    have gains : Marker.within (some frame.name) (frame.text ++ chars) =
        Marker.within (some frame.name) frame.text ++ fresh := gains
    simp only [remains, write, List.flatMap_cons, gains, List.append_assoc]
    refine .append_left _ (.append_left _ ?_)
    -- The markers of the frames further out stand behind those that are new.
    exact List.perm_append_comm.trans (.of_eq (List.append_assoc ..))

/-- The markers that remain end blocks, but not the ones that they stand in, and `reported` of
them have been reported. -/
structure Swept (nesting : Nesting) (reported : Nat) : Prop where
  /-- Every frame has a block name. -/
  named : ∀ name ∈ nesting.frames.map Frame.name, Name.isBlock name = true
  /-- No marker begins a block, and none ends the block around it. -/
  idle : ∀ around marker, (around, marker) ∈ nesting.remains →
    marker.kind = .ends ∧ around ≠ some marker.name
  /-- Nothing has been left without a report. -/
  count : nesting.remains.length = reported

theorem swept_start : start.Swept 0 := by
  have none : start.remains = [] := by
    simp [remains, start, Marker.within, Marker.all, Token.ofText_nil]
  exact ⟨by simp [start], by simp [none], by simp [none]⟩

variable {nesting : Nesting} {reported : Nat}

/-- A text may be written if the markers in it end other blocks than the innermost. -/
theorem Swept.write (swept : nesting.Swept reported) {chars : Text} {found : List Marker}
    (more : Marker.all (nesting.inner ++ chars) = Marker.all nesting.inner ++ found)
    (idle : ∀ marker ∈ found, marker.kind = .ends ∧ nesting.around ≠ some marker.name) :
    (nesting.write chars).Swept (reported + found.length) := by
  have gains := remains_write more
  refine ⟨?_, ?_, ?_⟩
  · rw [map_name_frames_write]
    exact swept.named
  · intro around marker member
    rcases List.mem_append.1 (gains.mem_iff.1 member) with old | new
    · exact swept.idle around marker old
    · obtain ⟨marker, member, same⟩ := List.mem_map.1 new
      cases same
      exact idle marker member
  · rw [gains.length_eq, List.length_append, List.length_map, swept.count]

/-- Characters that make up no marker are written. -/
theorem Swept.write_unmarked (swept : nesting.Swept reported)
    (closed : Token.Sealed nesting.inner) {chars : Text} (unmarked : Unmarked chars) :
    (nesting.write chars).Swept reported := by
  have none : Marker.all (nesting.inner ++ chars) = Marker.all nesting.inner ++ [] := by
    rw [Marker.all_append_of_sealed closed, Marker.all_eq_nil_iff.2 unmarked]
  exact swept.write none nofun

/-- The placeholder of a block is written. -/
theorem Swept.write_placeholder (swept : nesting.Swept reported) {name : Text}
    (named : Name.isBlock name = true) :
    (nesting.write (Name.placeholder name)).Swept reported := by
  have none : Marker.all (nesting.inner ++ Name.placeholder name) =
      Marker.all nesting.inner ++ [] := by
    rw [Marker.all_append_placeholder _ named, List.append_nil]
  exact swept.write none nofun

/-- A cut moves the markers in a frame to the body of its block. -/
theorem Swept.cutFrame (swept : nesting.Swept reported) {frame : Frame} {outer : List Frame}
    (frames : nesting.frames = frame :: outer) : (nesting.cutFrame frame outer).Swept reported := by
  have moved : (nesting.cutFrame frame outer).remains = nesting.remains := by
    simp [remains, Nesting.cutFrame, frames]
  refine ⟨fun name member => swept.named name ?_, moved ▸ swept.idle, moved ▸ swept.count⟩
  rw [frames]
  exact List.mem_cons_of_mem _ member

theorem Swept.openFrame (swept : nesting.Swept reported) {name : Text}
    (named : Name.isBlock name = true) : (nesting.openFrame name).Swept reported := by
  have same : (nesting.openFrame name).remains = nesting.remains := by
    simp [remains, Nesting.openFrame, Marker.within, Marker.all, Token.ofText_nil]
  refine ⟨?_, same ▸ swept.idle, same ▸ swept.count⟩
  intro other member
  rcases List.mem_cons.1 member with rfl | member
  · exact named
  · exact swept.named other member

/-- Reading a marker keeps a nesting swept, and no marker begins in front of it and ends behind
it. -/
theorem Swept.mark (swept : nesting.Swept reported) {marker : Marker}
    (named : Name.isBlock marker.name = true) :
    (nesting.step Block.placeholder (.mark marker)).Swept
        (reported + (nesting.report (.mark marker)).length) ∧
      Token.Sealed (nesting.step Block.placeholder (.mark marker)).inner := by
  obtain ⟨name, rfl⟩ | ⟨frame, outer, frames, rfl⟩ | ⟨name, other, rfl⟩ :=
    nesting.mark_cases marker
  · exact ⟨swept.openFrame named, Token.sealed_nil⟩
  · rw [step_end frames, report_end frames, closeFrame, inner_write]
    exact ⟨(swept.cutFrame frames).write_placeholder named, Token.sealed_append_placeholder _ named⟩
  · rw [step_end_of_ne other, report_end_of_ne other, inner_write]
    have idle : ∀ marker ∈ [Marker.mk .ends name],
        marker.kind = .ends ∧ nesting.around ≠ some marker.name := by
      intro marker member
      rw [List.mem_singleton.1 member]
      exact ⟨rfl, other⟩
    exact ⟨swept.write (Marker.all_append_text _ named) idle, Token.sealed_append_marker _ named⟩

/-- Reading a text keeps a nesting swept. -/
theorem Swept.foldl (text : Text) (swept : nesting.Swept reported)
    (closed : Token.Sealed nesting.inner) :
    ((Token.ofText text).foldl (step Block.placeholder) nesting).Swept
      (reported + (nesting.reports (Token.ofText text)).length) := by
  induction text using Text.induction_on_markers generalizing nesting reported with
  | last text unmarked =>
    rw [Token.ofText_unmarked unmarked, foldl_plain, reports_plain]
    exact swept.write_unmarked closed unmarked
  | more before marker rest unmarked named ih =>
    obtain ⟨swept, closed⟩ := (swept.write_unmarked closed unmarked).mark named
    rw [Marker.ofText_around named, Token.ofText_unmarked unmarked, List.foldl_append, foldl_plain,
      List.foldl_cons, reports_append, reports_plain, foldl_plain, reports, List.nil_append,
      List.length_append, ← Nat.add_assoc]
    exact ih swept closed

/-- The texts that a division reads its results from are swept. -/
theorem swept_reading (text : Text) :
    (reading Block.placeholder text).Swept (start.reports (Token.ofText text)).length := by
  have swept := swept_start.foldl text Token.sealed_nil
  rw [Nat.zero_add] at swept
  exact swept

/-! ## Reading what was read -/

/-- Characters are written, and so are end markers that do not close the innermost frame. -/
theorem foldl_idle (stands : Block → Text) {tokens : List Token} {nesting : Nesting}
    (idle : ∀ marker ∈ tokens.filterMap Token.mark?,
      marker.kind = .ends ∧ nesting.around ≠ some marker.name) :
    tokens.foldl (step stands) nesting = nesting.write (Token.spelling tokens) := by
  induction tokens generalizing nesting with
  | nil => exact (write_nil nesting).symm
  | cons token tokens ih =>
    have written : nesting.step stands token = nesting.write token.text := by
      cases token with
      | plain c => rfl
      | mark marker =>
        obtain ⟨kind, name⟩ := marker
        obtain ⟨ends, other⟩ := idle ⟨kind, name⟩ List.mem_cons_self
        cases ends
        exact step_end_of_ne other
    have later : ∀ marker ∈ tokens.filterMap Token.mark?,
        marker.kind = .ends ∧ (nesting.write token.text).around ≠ some marker.name := by
      intro marker member
      rw [around_write]
      refine idle marker ?_
      rw [← List.singleton_append, List.filterMap_append]
      exact List.mem_append_right _ member
    rw [List.foldl_cons, written, ih later, write_write, Token.spelling_cons]

theorem foldl_ofText_idle (stands : Block → Text) {text : Text} (idle : Idle nesting.around text) :
    (Token.ofText text).foldl (step stands) nesting = nesting.write text := by
  rw [foldl_idle stands idle, (Token.leftmost_ofText text).spells]

theorem Swept.idle_block (swept : nesting.Swept reported) {block : Block}
    (member : block ∈ nesting.blocks) : Idle (some block.name) block.body :=
  fun marker found => swept.idle _ marker (List.mem_append_left _
    (List.mem_flatMap.2 ⟨block, member, List.mem_map_of_mem found⟩))

/-- Every frame has a block name, and the markers in it do not close it. -/
theorem Swept.settled (swept : nesting.Swept reported) :
    ∀ frame ∈ nesting.frames,
      Name.isBlock frame.name = true ∧ Idle (some frame.name) frame.text := by
  intro frame member
  refine ⟨swept.named _ (List.mem_map_of_mem member), fun marker found => ?_⟩
  exact swept.idle _ marker (List.mem_append_right _ (List.mem_append_left _
    (List.mem_flatMap.2 ⟨frame, member, List.mem_map_of_mem found⟩)))

theorem Swept.idle_outside (swept : nesting.Swept reported) : Idle none nesting.outside :=
  fun marker found => swept.idle _ marker (List.mem_append_right _ (List.mem_append_right _
    (List.mem_map_of_mem found)))

/-- A frame is put back with its begin marker behind the frames further out. -/
theorem ofText_flatten (outside : Text) {frame : Frame} {outer : List Frame}
    (named : Name.isBlock frame.name = true) :
    Token.ofText (flatten outside (frame :: outer)) = Token.ofText (flatten outside outer) ++
      .mark ⟨.begins, frame.name⟩ :: Token.ofText frame.text := by
  have marker : Name.isBlock (Marker.mk .begins frame.name).name = true := named
  rw [flatten, Frame.opening, Marker.ofText_around marker]

/-- Frames that are put back are opened again, and their texts are written to them. -/
theorem foldl_flatten (stands : Block → Text) {outside : Text} {frames : List Frame}
    (free : Idle none outside)
    (settled : ∀ frame ∈ frames,
      Name.isBlock frame.name = true ∧ Idle (some frame.name) frame.text) :
    (Token.ofText (flatten outside frames)).foldl (step stands) start = ⟨outside, frames, []⟩ := by
  induction frames with
  | nil => exact foldl_ofText_idle stands free
  | cons frame outer ih =>
    obtain ⟨⟨named, idle⟩, further⟩ := List.forall_mem_cons.1 settled
    rw [ofText_flatten outside named, List.foldl_append, ih further, List.foldl_cons]
    exact foldl_ofText_idle stands idle

/-- Reading the outline leads to the same frames. -/
theorem Swept.reading_outline (swept : nesting.Swept reported) (stands : Block → Text) :
    reading stands nesting.outline = ⟨nesting.outside, nesting.frames, []⟩ :=
  foldl_flatten stands swept.idle_outside swept.settled

/-! ## Counting -/

/-- The markers that have been read and not reported. -/
def weight (nesting : Nesting) : Nat := nesting.frames.length + 2 * nesting.blocks.length

@[simp] theorem weight_write (chars : Text) (nesting : Nesting) :
    (nesting.write chars).weight = nesting.weight := by
  have same := congrArg List.length (map_name_frames_write chars nesting)
  rw [List.length_map, List.length_map] at same
  rw [weight, same, blocks_write, weight]

/-- A marker adds to the weight, or it is reported. -/
theorem weight_mark (nesting : Nesting) (marker : Marker) :
    (nesting.step Block.placeholder (.mark marker)).weight +
      (nesting.report (.mark marker)).length = nesting.weight + 1 := by
  obtain ⟨name, rfl⟩ | ⟨frame, outer, frames, rfl⟩ | ⟨name, other, rfl⟩ :=
    nesting.mark_cases marker
  · rw [report_begin]
    simp only [step, openFrame, weight, List.length_cons, List.length_nil]
    omega
  · rw [step_end frames, report_end frames, closeFrame, weight_write]
    simp only [cutFrame, weight, frames, List.length_append, List.length_cons, List.length_nil]
    omega
  · rw [step_end_of_ne other, report_end_of_ne other, weight_write, List.length_singleton]

theorem weight_foldl (tokens : List Token) (nesting : Nesting) :
    (tokens.foldl (step Block.placeholder) nesting).weight + (nesting.reports tokens).length =
      nesting.weight + (tokens.filterMap Token.mark?).length := by
  induction tokens generalizing nesting with
  | nil => rfl
  | cons token tokens ih =>
    have rest := ih (nesting.step Block.placeholder token)
    rw [List.foldl_cons, reports, List.length_append]
    cases token with
    | plain c =>
      have same : (nesting.step Block.placeholder (.plain c)).weight = nesting.weight :=
        weight_write [c] nesting
      have unseen : (Token.plain c :: tokens).filterMap Token.mark? =
        tokens.filterMap Token.mark? := rfl
      have silent : nesting.report (.plain c) = [] := rfl
      rw [unseen, silent, List.length_nil]
      omega
    | mark marker =>
      have gained := nesting.weight_mark marker
      have seen : (Token.mark marker :: tokens).filterMap Token.mark? =
        marker :: tokens.filterMap Token.mark? := rfl
      rw [seen, List.length_cons]
      omega

/-- Frames that are put back have one begin marker each besides the markers in their texts. -/
theorem length_all_flatten (outside : Text) {frames : List Frame}
    (named : ∀ frame ∈ frames, Name.isBlock frame.name = true) :
    (Marker.all (flatten outside frames)).length = frames.length +
      (frames.flatMap (fun frame => Marker.within (some frame.name) frame.text) ++
        Marker.within none outside).length := by
  induction frames with
  | nil => simp [flatten, Marker.within]
  | cons frame outer ih =>
    obtain ⟨named, further⟩ := List.forall_mem_cons.1 named
    have outermost := ih further
    rw [Marker.all] at outermost
    simp only [Marker.all, Marker.within, ofText_flatten outside named, List.filterMap_append,
      List.filterMap_cons, Token.mark?, List.length_append, List.length_cons, List.flatMap_cons,
      List.length_map, outermost]
    omega

/-- The markers in the outline and in the bodies are those that were reported and those of the
frames. -/
theorem Swept.length_all (swept : nesting.Swept reported) :
    (Marker.all nesting.outline).length +
        (nesting.blocks.flatMap fun block => Marker.all block.body).length =
      reported + nesting.frames.length := by
  have outline := length_all_flatten nesting.outside fun frame member =>
    (swept.settled frame member).1
  have bodies : (nesting.blocks.flatMap fun block =>
      Marker.within (some block.name) block.body).length =
        (nesting.blocks.flatMap fun block => Marker.all block.body).length := by
    simp [List.length_flatMap, Marker.within]
  have counted := swept.count
  rw [remains, List.length_append, bodies] at counted
  rw [Nesting.outline, outline]
  omega

/-! ## The begin markers of the outline -/

/-- No text that is idle has a begin marker. -/
theorem filter_places_idle {around : Option Text} {text : Text} (idle : Idle around text)
    (start : Nat) :
    (Token.places start (Token.ofText text)).filter (fun place => place.2.kind = .begins) = [] := by
  refine List.filter_eq_nil_iff.2 fun place member => ?_
  have marker : place.2 ∈ Marker.all text := by
    rw [Marker.all, ← Token.map_snd_places start]
    exact List.mem_map_of_mem member
  simp [(idle place.2 marker).1]

/-- The begin markers in frames that are put back are those of the frames. -/
theorem filter_occurrences_flatten {outside : Text} {frames : List Frame}
    (free : Idle none outside)
    (settled : ∀ frame ∈ frames,
      Name.isBlock frame.name = true ∧ Idle (some frame.name) frame.text) :
    (Marker.occurrences (flatten outside frames)).filter (fun place => place.2.kind = .begins) =
      (positions outside frames).reverse.map fun opening =>
        (opening.offset, ⟨.begins, opening.name⟩) := by
  induction frames with
  | nil => exact filter_places_idle free 0
  | cons frame outer ih =>
    obtain ⟨⟨named, idle⟩, further⟩ := List.forall_mem_cons.1 settled
    have outermost := ih further
    rw [Marker.occurrences] at outermost
    rw [Marker.occurrences, ofText_flatten outside named, Token.places_append, List.filter_append,
      outermost, (Token.leftmost_ofText _).spells, Token.places, List.filter_cons_of_pos (by rfl),
      filter_places_idle idle, positions, List.reverse_cons, List.map_append, Nat.zero_add]
    rfl

end Nesting

/-! ## What a division gives -/

/-- A text that is idle outside of all blocks is divided already. -/
theorem divide_of_idle {text : Text} (idle : Idle none text) :
    (divide text).outline = text ∧ (divide text).blocks = [] := by
  have read : Nesting.reading Block.placeholder text = ⟨text, [], []⟩ :=
    Nesting.foldl_ofText_idle Block.placeholder idle
  rw [outline_divide, blocks_divide, read]
  exact ⟨rfl, rfl⟩

/-- What a division gives is divided already.  No body has a begin marker, and none has an end
marker of its own block. -/
theorem divide_again (text : Text) :
    (divide (divide text).outline).outline = (divide text).outline ∧
      (divide (divide text).outline).blocks = [] ∧
      ∀ block ∈ (divide text).blocks,
        (divide block.body).outline = block.body ∧ (divide block.body).blocks = [] ∧
          (∀ name, Name.isBlock name = true → ¬ (Marker.mk .begins name).text <:+: block.body) ∧
          ¬ (Marker.mk .ends block.name).text <:+: block.body := by
  have swept := Nesting.swept_reading text
  have again := swept.reading_outline Block.placeholder
  refine ⟨?_, ?_, ?_⟩
  · rw [outline_divide, outline_divide, again]
    rfl
  · rw [blocks_divide, outline_divide, again]
  · intro block member
    have own := isBlock_of_mem_divide member
    rw [blocks_divide] at member
    have idle := swept.idle_block member
    have free : Idle none block.body := fun marker found => ⟨(idle marker found).1, nofun⟩
    obtain ⟨same, none⟩ := divide_of_idle free
    refine ⟨same, none, ?_, ?_⟩
    · intro name named within
      cases (idle _ (Marker.mem_all_iff.2 ⟨named, within⟩)).1
    · intro within
      exact (idle _ (Marker.mem_all_iff.2 ⟨own, within⟩)).2 rfl

/-- The begin markers of an outline are those that its division warns of. -/
theorem map_unclosed_divide (text : Text) :
    (divide text).unclosed.map (fun warning => (warning.offset, Marker.mk .begins warning.block)) =
      (Marker.occurrences (divide text).outline).filter fun place => place.2.kind = .begins := by
  have swept := Nesting.swept_reading text
  rw [unclosed_divide, outline_divide, Nesting.outline,
    Nesting.filter_occurrences_flatten swept.idle_outside swept.settled, List.map_map]
  rfl

/-- Every marker is cut with a block or reported.  What is reported is what stays in the outline
and in the bodies, and the warnings for begin markers say where in the outline they stand. -/
theorem warnings_account_for_markers (text : Text) :
    (Marker.occurrences text).length =
        2 * (divide text).blocks.length + (divide text).warnings.length ∧
      (Marker.occurrences (divide text).outline).length +
          ((divide text).blocks.flatMap fun block => Marker.occurrences block.body).length =
        (divide text).warnings.length ∧
      (divide text).unclosed.map
          (fun warning => (warning.offset, Marker.mk .begins warning.block)) =
        (Marker.occurrences (divide text).outline).filter (fun place => place.2.kind = .begins) ∧
      (divide text).unclosed.Pairwise (fun warning later => warning.offset < later.offset) ∧
      ∀ warning ∈ (divide text).unclosed, ∃ before rest,
        (divide text).outline = before ++ ((Marker.mk .begins warning.block).text ++ rest) ∧
          warning.offset = Text.utf8Length before := by
  have begins := map_unclosed_divide text
  refine ⟨?_, ?_, begins, ?_, ?_⟩
  · have weighed := Nesting.weight_foldl (Token.ofText text) Nesting.start
    have whole : (Nesting.reading Block.placeholder text).weight +
        (Nesting.start.reports (Token.ofText text)).length = 0 + (Marker.all text).length := weighed
    rw [Nesting.weight] at whole
    rw [Marker.length_occurrences, length_warnings_divide, blocks_divide]
    omega
  · simp only [List.length_flatMap, Marker.length_occurrences]
    rw [← List.length_flatMap, length_warnings_divide, outline_divide, blocks_divide]
    exact (Nesting.swept_reading text).length_all
  · have ascending := (Marker.ascending_occurrences (divide text).outline).filter
      (fun place => place.2.kind = .begins)
    rw [← begins, List.pairwise_map] at ascending
    exact ascending
  · intro warning member
    have place : (warning.offset, Marker.mk .begins warning.block) ∈
        (divide text).unclosed.map fun warning => (warning.offset, ⟨.begins, warning.block⟩) :=
      List.mem_map.2 ⟨warning, member, rfl⟩
    rw [begins] at place
    exact (Marker.mem_occurrences_iff.1 (List.mem_filter.1 place).1).2

/-- Of two crossed blocks the inner one is cut with an end marker of the outer one in it. -/
example : divide "<!-- BDP: a -->x<!-- BDP: b -->y<!-- EDP: a -->z<!-- EDP: b -->".toList =
    ⟨"<!-- BDP: a -->x\x7bB\x7d".toList, [⟨['b'], "y<!-- EDP: a -->z".toList⟩],
      [⟨.unmatchedEnd, ['a'], 32⟩, ⟨.unclosedBegin, ['a'], 0⟩]⟩ := by
  decide +kernel

end PageTemplates
