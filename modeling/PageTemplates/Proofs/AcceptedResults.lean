import PageTemplates.Proofs.StoredResults

/-!
# What is accepted as an authentication result

A stored result has three parts: a code, an identity and messages.  A record
keeps them in fields and a list keeps them by position, and all but the code may
be missing (`AuthResult.parts?`).  `AuthResult.Parts.Tells` says which result the
parts tell of, and `AuthResult.Parts.Sound` when they tell of one.

Reading a value gives the result that its parts tell of and fails on any other
value (`AuthResult.read_eq_ok_iff`).  A record is read field by field, and the
other fields are passed over.  Its keys are distinct, so a field that has been
read is not met again (`AuthResult.readFields_eq_ok_iff`).

What is read never has null for its identity.  So it comes back unchanged when it
is stored in any event (`authResult?_accepts`).
-/

namespace PageTemplates

/-- A reading that goes on succeeds if both of its parts do. -/
theorem Value.bind_eq_ok_iff {α β : Type _} {reading : Except ReadError α}
    {next : α → Except ReadError β} {result : β} :
    (reading >>= next) = .ok result ↔ ∃ read, reading = .ok read ∧ next read = .ok result := by
  cases reading with
  | error cause => simp [bind, Except.bind]
  | ok read => simp [bind, Except.bind]

/-- No two fields of a record have the same key. -/
def Value.Distinct : Value → Prop
  | .record fields => (Table.keys fields).Nodup
  | _ => True

/-! ## Codes and messages -/

/-- The numbers of codes are those from -5 to 1. -/
theorem AuthCode.exists_toInt_eq_iff {number : Int} :
    (∃ code : AuthCode, code.toInt = number) ↔ -5 ≤ number ∧ number ≤ 1 := by
  constructor
  · rintro ⟨code, rfl⟩
    cases code <;> decide
  · rintro ⟨low, high⟩
    obtain rfl | rfl | rfl | rfl | rfl | rfl | rfl : number = 1 ∨ number = 0 ∨ number = -1 ∨
        number = -2 ∨ number = -3 ∨ number = -4 ∨ number = -5 := by omega
    · exact ⟨.success, rfl⟩
    · exact ⟨.failure, rfl⟩
    · exact ⟨.identityNotFound, rfl⟩
    · exact ⟨.identityAmbiguous, rfl⟩
    · exact ⟨.credentialInvalid, rfl⟩
    · exact ⟨.credentialEmpty, rfl⟩
    · exact ⟨.uncategorized, rfl⟩

theorem AuthCode.toInt_of_ofInt? {number : Int} {code : AuthCode}
    (found : AuthCode.ofInt? number = some code) : code.toInt = number := by
  unfold AuthCode.ofInt? at found
  split at found <;> cases found <;> rfl

theorem AuthCode.read_eq_ok_iff {value : Value} {code : AuthCode} :
    AuthCode.read value = .ok code ↔ value = .int code.toInt := by
  refine ⟨fun read => ?_, fun same => same ▸ AuthCode.read_toInt code⟩
  obtain ⟨number, whole, read⟩ := Value.bind_eq_ok_iff.1 read
  split at read
  · next found known =>
    obtain rfl := Except.ok.inj read
    rw [AuthCode.toInt_of_ofInt? known]
    unfold Value.readInt32 Value.readInt at whole
    split at whole
    · split at whole
      · rw [Except.ok.inj whole]
      · cases whole
    · cases whole
  · cases read

theorem Value.readText_eq_ok_iff {value : Value} {text : Text} :
    value.readText = .ok text ↔ value = .text text := by
  cases value <;> simp [Value.readText]

namespace AuthResult

theorem readMessages_eq_ok_iff {value : Value} {messages : List Text} :
    readMessages value = .ok messages ↔ value = .list (messages.map .text) := by
  refine ⟨fun read => ?_, fun same => same ▸ readMessages_map messages⟩
  unfold readMessages Value.readList at read
  split at read
  · next items =>
    congr 1
    induction items generalizing messages with
    | nil =>
      cases read
      rfl
    | cons item items ih =>
      rw [List.mapM_cons] at read
      obtain ⟨message, first, read⟩ := Value.bind_eq_ok_iff.1 read
      obtain ⟨later, rest, read⟩ := Value.bind_eq_ok_iff.1 read
      obtain rfl := Except.ok.inj read
      rw [Value.readText_eq_ok_iff.1 first, ih rest, List.map_cons]
  · cases read

/-! ## The parts of a stored result -/

/-- The parts that a result is stored in. -/
structure Parts where
  code : Value
  /-- The identity, unless it is missing. -/
  identity : Option Value
  /-- The messages, unless they are missing. -/
  messages : Option Value

/-- The parts of a value: the fields of a record, or the one to three items of a list. -/
def parts? : Value → Option Parts
  | .record fields =>
    (Table.get? codeField fields).map fun code =>
      ⟨code, Table.get? identityField fields, Table.get? messagesField fields⟩
  | .list [code] => some ⟨code, none, none⟩
  | .list [code, identity] => some ⟨code, some identity, none⟩
  | .list [code, identity, messages] => some ⟨code, some identity, some messages⟩
  | _ => none

namespace Parts

/-- The code is a number from -5 to 1, and the messages are missing or a list of texts. -/
structure Sound (parts : Parts) : Prop where
  code : ∃ number, parts.code = .int number ∧ -5 ≤ number ∧ number ≤ 1
  messages : ∀ value, parts.messages = some value →
    ∃ texts : List Text, value = .list (texts.map .text)

/-- The parts tell of a result: its code, its identity unless that is null, and its messages. -/
structure Tells (parts : Parts) (result : AuthResult) : Prop where
  code : parts.code = .int result.code.toInt
  identity : ∀ value, result.identity = some value ↔ parts.identity = some value ∧ value ≠ .null
  messages : parts.messages.getD (.list []) = .list (result.messages.map .text)

variable {parts : Parts} {result : AuthResult}

/-- An identity is kept unless it is null. -/
theorem bind_readIdentity_eq_iff {found identity : Option Value} :
    found.bind readIdentity = identity ↔
      ∀ value, identity = some value ↔ found = some value ∧ value ≠ .null := by
  have kept : ∀ value,
      found.bind readIdentity = some value ↔ found = some value ∧ value ≠ .null := by
    intro value
    cases found with
    | none => simp
    | some stored => cases stored <;> cases value <;> simp [readIdentity]
  constructor
  · rintro rfl value
    exact kept value
  · intro same
    exact Option.ext fun value => (kept value).trans (same value).symm

/-- The parts that tell of some result are the sound ones. -/
theorem exists_tells_iff : (∃ result, parts.Tells result) ↔ parts.Sound := by
  constructor
  · rintro ⟨result, tells⟩
    refine ⟨⟨_, tells.code, AuthCode.exists_toInt_eq_iff.1 ⟨_, rfl⟩⟩, fun value there => ?_⟩
    have messages := tells.messages
    rw [there] at messages
    exact ⟨result.messages, messages⟩
  · rintro ⟨⟨number, whole, range⟩, messages⟩
    obtain ⟨code, rfl⟩ := AuthCode.exists_toInt_eq_iff.2 range
    have texts : ∃ texts : List Text, parts.messages.getD (.list []) = .list (texts.map .text) := by
      cases there : parts.messages with
      | none => exact ⟨[], rfl⟩
      | some value => exact messages value there
    obtain ⟨texts, written⟩ := texts
    exact ⟨⟨code, parts.identity.bind readIdentity, texts⟩, whole,
      bind_readIdentity_eq_iff.1 rfl, written⟩

/-- Reads the parts one after the other.  Missing messages are read as no messages. -/
def read (parts : Parts) : Except ReadError AuthResult := do
  let code ← AuthCode.read parts.code
  let messages ← readMessages (parts.messages.getD (.list []))
  .ok ⟨code, parts.identity.bind readIdentity, messages⟩

/-- What is read from the parts is the result that they tell of. -/
theorem read_eq_ok_iff : parts.read = .ok result ↔ parts.Tells result := by
  unfold read
  simp only [Value.bind_eq_ok_iff, AuthCode.read_eq_ok_iff, readMessages_eq_ok_iff]
  constructor
  · rintro ⟨code, whole, messages, written, same⟩
    obtain rfl := Except.ok.inj same
    exact ⟨whole, bind_readIdentity_eq_iff.1 rfl, written⟩
  · rintro ⟨code, identity, messages⟩
    refine ⟨result.code, code, result.messages, messages, ?_⟩
    rw [bind_readIdentity_eq_iff.2 identity]

end Parts

/-! ## Reading a list -/

theorem readItems_eq_ok_iff {items : List Value} {result : AuthResult} :
    readItems items = .ok result ↔
      ∃ parts, parts? (.list items) = some parts ∧ parts.Tells result := by
  simp only [← Parts.read_eq_ok_iff]
  match items with
  | [] => simp [readItems, parts?]
  | [code] =>
    have same : readItems [code] = Parts.read ⟨code, none, none⟩ := rfl
    simp [same, parts?]
  | [code, identity] =>
    have same : readItems [code, identity] = Parts.read ⟨code, some identity, none⟩ := rfl
    simp [same, parts?]
  | [code, identity, messages] =>
    have same : readItems [code, identity, messages] =
        Parts.read ⟨code, some identity, some messages⟩ := rfl
    simp [same, parts?]
  | code :: identity :: messages :: more :: rest =>
    simp [readItems, parts?, Value.bind_eq_ok_iff]

/-! ## Reading a record -/

/-- What a field makes of the data read before: nothing new if it is missing. -/
def Takes {α : Type _} (reads : Value → α → Prop) (found : Option Value)
    (before after : α) : Prop :=
  match found with
  | none => before = after
  | some value => reads value after

@[simp] theorem takes_none {α : Type _} {reads : Value → α → Prop} {before after : α} :
    Takes reads none before after ↔ before = after := Iff.rfl

@[simp] theorem takes_some {α : Type _} {reads : Value → α → Prop} {value : Value}
    {before after : α} : Takes reads (some value) before after ↔ reads value after := Iff.rfl

/-- A field with a code. -/
def ReadsCode (value : Value) (code : Option AuthCode) : Prop :=
  ∃ known, AuthCode.read value = .ok known ∧ some known = code

/-- What fields make of the data read before, each by its key. -/
def Fields.Lead (fields : Table Value) (before after : Fields) : Prop :=
  Takes ReadsCode (fields.get? codeField) before.code after.code ∧
    Takes (readIdentity · = ·) (fields.get? identityField) before.identity after.identity ∧
    Takes (readMessages · = .ok ·) (fields.get? messagesField) before.messages after.messages

/-- If no key stands twice, each field is read once and the order does not matter. -/
theorem readFields_eq_ok_iff {fields : Table Value} (distinct : fields.keys.Nodup)
    {before after : Fields} :
    readFields fields before = .ok after ↔ Fields.Lead fields before after := by
  induction fields generalizing before with
  | nil =>
    obtain ⟨code, identity, messages⟩ := before
    obtain ⟨code', identity', messages'⟩ := after
    simp [readFields, Fields.Lead]
  | cons field rest ih =>
    obtain ⟨key, value⟩ := field
    obtain ⟨unmet, later⟩ := List.nodup_cons.1 distinct
    have missing : Table.get? key rest = none := Table.get?_eq_none_of_not_mem unmet
    have identityCode : identityField ≠ codeField := by decide
    have messagesCode : messagesField ≠ codeField := by decide
    have messagesIdentity : messagesField ≠ identityField := by decide
    unfold readFields
    split
    · next here =>
      subst here
      simp only [Value.bind_eq_ok_iff, ih later, Fields.Lead, missing, Table.get?,
        identityCode.symm, messagesCode.symm, if_true, if_false, takes_none, takes_some, ReadsCode,
        exists_and_right, ← and_assoc]
    split
    · next here =>
      subst here
      simp only [ih later, Fields.Lead, missing, Table.get?, identityCode, messagesIdentity.symm,
        if_true, if_false, takes_none, takes_some]
    split
    · next here =>
      subst here
      simp only [Value.bind_eq_ok_iff, ih later, Fields.Lead, missing, Table.get?,
        messagesCode, messagesIdentity, if_true, if_false, takes_none, takes_some]
      constructor
      · rintro ⟨messages, read, code, identity, rfl⟩
        exact ⟨code, identity, read⟩
      · rintro ⟨code, identity, read⟩
        exact ⟨_, read, code, identity, rfl⟩
    · next notCode notIdentity notMessages =>
      simp only [ih later, Fields.Lead, Table.get?, notCode, notIdentity, notMessages, if_false]

/-- Before anything has been read, a missing identity is none and missing messages are no
messages. -/
theorem Fields.lead_start_iff {fields : Table Value} {after : Fields} :
    Fields.Lead fields {} after ↔
      Takes ReadsCode (fields.get? codeField) none after.code ∧
        (fields.get? identityField).bind readIdentity = after.identity ∧
        readMessages ((fields.get? messagesField).getD (.list [])) = .ok after.messages := by
  have empty : readMessages (.list []) = .ok [] := rfl
  unfold Fields.Lead
  cases fields.get? identityField <;> cases fields.get? messagesField <;> simp [empty]

/-- A record is read as its parts are. -/
theorem read_record_eq_ok_iff {fields : Table Value} (distinct : fields.keys.Nodup)
    {result : AuthResult} :
    AuthResult.read (.record fields) = .ok result ↔
      ∃ parts, parts? (.record fields) = some parts ∧ parts.Tells result := by
  simp only [AuthResult.read, Value.bind_eq_ok_iff, readFields_eq_ok_iff distinct,
    Fields.lead_start_iff, parts?]
  cases code : fields.get? codeField with
  | none =>
    constructor
    · rintro ⟨⟨_, identity, messages⟩, ⟨rfl, -⟩, same⟩
      cases same
    · rintro ⟨parts, absent, -⟩
      cases absent
  | some value =>
    simp only [takes_some, Option.map_some, Option.some.injEq, exists_eq_left',
      ← Parts.read_eq_ok_iff, Parts.read, Value.bind_eq_ok_iff, ReadsCode]
    constructor
    · rintro ⟨⟨_, identity, messages⟩, ⟨⟨known, whole, rfl⟩, rfl, written⟩, same⟩
      exact ⟨known, whole, messages, written, same⟩
    · rintro ⟨known, whole, messages, written, same⟩
      exact ⟨⟨some known, _, messages⟩, ⟨⟨known, whole, rfl⟩, rfl, written⟩, same⟩

/-- A value is read if it has parts that tell of a result, and the result is that one. -/
theorem read_eq_ok_iff {value : Value} (distinct : value.Distinct) {result : AuthResult} :
    AuthResult.read value = .ok result ↔
      ∃ parts, parts? value = some parts ∧ parts.Tells result := by
  cases value with
  | record fields => exact read_record_eq_ok_iff distinct
  | list items => exact readItems_eq_ok_iff
  | _ => simp [AuthResult.read, parts?]

/-- A result that has been read has no null identity. -/
theorem Parts.Tells.withoutNull_eq {parts : Parts} {result : AuthResult}
    (tells : parts.Tells result) : result.withoutNull = result := by
  obtain ⟨code, identity, messages⟩ := result
  cases identity with
  | none => rfl
  | some value =>
    cases value with
    | null => exact absurd rfl ((tells.identity .null).1 rfl).2
    | _ => rfl

end AuthResult

/-! ## Results in events -/

namespace Event

variable {α : Type _} {read : Value.Reader α} {name : Text} {event : Event} {value : Value}

theorem paramAs_of_missing
    (missing : event.param? name = none ∨ event.param? name = some .null) :
    event.paramAs read name = .ok none := by
  unfold paramAs
  rcases missing with missing | null
  · rw [missing]
  · rw [null]

/-- A parameter other than null is read. -/
theorem paramAs_of_param (there : event.param? name = some value) (filled : value ≠ .null) :
    event.paramAs read name = ((read value).map some).mapError (.param name) := by
  unfold paramAs
  rw [there]
  split
  · next absent => cases absent
  · next null => exact absurd (Option.some.inj null) filled
  · next given =>
    obtain rfl := Option.some.inj given
    cases read value <;> rfl

theorem paramAs_eq_none_iff : event.paramAs read name = .ok none ↔
    event.param? name = none ∨ event.param? name = some .null := by
  refine ⟨fun absent => ?_, paramAs_of_missing⟩
  cases there : event.param? name with
  | none => exact .inl rfl
  | some value =>
    by_cases null : value = .null
    · exact .inr (by rw [null])
    · rw [paramAs_of_param there null] at absent
      cases reading : read value <;> rw [reading] at absent <;> cases absent

theorem paramAs_eq_some_iff {data : α} : event.paramAs read name = .ok (some data) ↔
    ∃ value, event.param? name = some value ∧ value ≠ .null ∧ read value = .ok data := by
  cases there : event.param? name with
  | none => simp [paramAs_of_missing (.inl there)]
  | some value =>
    by_cases null : value = .null
    · simp [paramAs_of_missing (.inr (null ▸ there)), null]
    · rw [paramAs_of_param there null]
      cases reading : read value with
      | error cause =>
        constructor
        · intro failed
          cases failed
        · rintro ⟨other, same, -, given⟩
          rw [← Option.some.inj same, reading] at given
          cases given
      | ok known =>
        constructor
        · intro given
          cases given
          exact ⟨value, rfl, null, reading⟩
        · rintro ⟨other, same, -, given⟩
          rw [← Option.some.inj same, reading] at given
          cases given
          rfl

theorem param?_setAuthResult (result : AuthResult) (event : Event) :
    (event.setAuthResult result).param? authParam = some result.toValue := by
  rw [param?, setAuthResult, setParam, Table.get?_insert, if_pos rfl]

end Event

open AuthResult in
/-- Which results an event yields.  There is none exactly if the parameter is missing or null.
There is one exactly if the parameter has sound parts, and it is the one that they tell of.  Any
other value is an error of the parameter.  A result that was read is read again from any event in
which it is stored. -/
theorem authResult?_accepts {event : Event}
    (distinct : ∀ value, event.param? Event.authParam = some value → value.Distinct) :
    (event.authResult? = .ok none ↔
      event.param? Event.authParam = none ∨ event.param? Event.authParam = some .null) ∧
    (∀ result, event.authResult? = .ok (some result) ↔
      ∃ value parts, event.param? Event.authParam = some value ∧
        parts? value = some parts ∧ parts.Tells result) ∧
    ((∃ result, event.authResult? = .ok (some result)) ↔
      ∃ value parts, event.param? Event.authParam = some value ∧
        parts? value = some parts ∧ parts.Sound) ∧
    (∀ value, event.param? Event.authParam = some value → value ≠ .null →
      (¬ ∃ parts, parts? value = some parts ∧ parts.Sound) →
        ∃ cause, event.authResult? = .error (.param Event.authParam cause)) ∧
    ∀ result, event.authResult? = .ok (some result) →
      ∀ other : Event, (other.setAuthResult result).authResult? = .ok (some result) := by
  have accepts : ∀ result, event.authResult? = .ok (some result) ↔
      ∃ value parts, event.param? Event.authParam = some value ∧
        parts? value = some parts ∧ parts.Tells result := by
    intro result
    rw [Event.authResult?, Event.paramAs_eq_some_iff]
    constructor
    · rintro ⟨value, there, -, read⟩
      obtain ⟨parts, has, tells⟩ := (read_eq_ok_iff (distinct value there)).1 read
      exact ⟨value, parts, there, has, tells⟩
    · rintro ⟨value, parts, there, has, tells⟩
      refine ⟨value, there, ?_, (read_eq_ok_iff (distinct value there)).2 ⟨parts, has, tells⟩⟩
      rintro rfl
      cases has
  refine ⟨Event.paramAs_eq_none_iff, accepts, ?_, ?_, ?_⟩
  · constructor
    · rintro ⟨result, accepted⟩
      obtain ⟨value, parts, there, has, tells⟩ := (accepts result).1 accepted
      exact ⟨value, parts, there, has, Parts.exists_tells_iff.1 ⟨result, tells⟩⟩
    · rintro ⟨value, parts, there, has, sound⟩
      obtain ⟨result, tells⟩ := Parts.exists_tells_iff.2 sound
      exact ⟨result, (accepts result).2 ⟨value, parts, there, has, tells⟩⟩
  · intro value there filled unsound
    rw [Event.authResult?, Event.paramAs_of_param there filled]
    cases reading : AuthResult.read value with
    | error cause => exact ⟨cause, rfl⟩
    | ok result =>
      obtain ⟨parts, has, tells⟩ := (read_eq_ok_iff (distinct value there)).1 reading
      exact absurd ⟨parts, has, Parts.exists_tells_iff.1 ⟨result, tells⟩⟩ unsound
  · intro result accepted other
    obtain ⟨value, parts, there, has, tells⟩ := (accepts result).1 accepted
    rw [Event.authResult?, Event.paramAs_eq_some_iff]
    refine ⟨_, Event.param?_setAuthResult result other, ?_, ?_⟩
    · intro null
      cases null
    · rw [AuthResult.read_toValue, tells.withoutNull_eq]

/-- An event with a result that has an identity of null and a field of its own. -/
def foreignEvent : Event :=
  { params := [(Event.authParam, .record
      [("code".toList, .int (-2)), ("identity".toList, .null),
        ("messages".toList, .list [.text "two rows".toList]),
        ("source".toList, .text "ldap".toList)])] }

/-- The result is carried over into an event that has none. -/
theorem authResult?_accepts_foreignEvent :
    (∀ value, foreignEvent.param? Event.authParam = some value → value.Distinct) ∧
      foreignEvent.authResult? = .ok (some ⟨.identityAmbiguous, none, ["two rows".toList]⟩) ∧
      ({} : Event).authResult? = .ok none ∧
      (({} : Event).setAuthResult ⟨.identityAmbiguous, none, ["two rows".toList]⟩).authResult? =
        .ok (some ⟨.identityAmbiguous, none, ["two rows".toList]⟩) := by
  have distinct : ∀ value, foreignEvent.param? Event.authParam = some value → value.Distinct := by
    intro value there
    obtain rfl := Option.some.inj there
    show (Table.keys _).Nodup
    decide
  obtain ⟨-, accepts, -, -, again⟩ := authResult?_accepts distinct
  have accepted := (accepts ⟨.identityAmbiguous, none, ["two rows".toList]⟩).2
    ⟨_, ⟨.int (-2), some .null, some (.list [.text "two rows".toList])⟩, rfl, rfl,
      ⟨rfl, by simp, rfl⟩⟩
  exact ⟨distinct, accepted, Event.paramAs_of_missing (.inl rfl), again _ accepted {}⟩

end PageTemplates
