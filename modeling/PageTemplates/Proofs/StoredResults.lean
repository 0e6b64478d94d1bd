import PageTemplates.Event.Auth

/-!
# Authentication results come back

A result is stored in an event as a record and read back from it.  The code and
the messages come back as they were (`AuthCode.read_toInt`,
`AuthResult.readMessages_map`), and so does an identity, unless it is null.  The
record has null where there is no identity, so a null identity is stored like
none and comes back as none (`AuthResult.read_toValue`).

Nothing else of the event changes (`authResult?_setAuthResult`).
-/

namespace PageTemplates

theorem AuthCode.read_toInt (code : AuthCode) : AuthCode.read (.int code.toInt) = .ok code := by
  cases code <;> rfl

namespace AuthResult

/-- The result with no identity in place of a null one. -/
def withoutNull (result : AuthResult) : AuthResult :=
  match result.identity with
  | some .null => { result with identity := none }
  | _ => result

/-- A value other than null is read back as it is, and null as none. -/
theorem withoutNull_eq (result : AuthResult) :
    result.withoutNull = { result with identity := readIdentity (result.identity.getD .null) } := by
  obtain ⟨code, identity, messages⟩ := result
  cases identity with
  | none => rfl
  | some value => cases value <;> rfl

theorem readMessages_map (messages : List Text) :
    readMessages (.list (messages.map .text)) = .ok messages := by
  show (messages.map Value.text).mapM Value.readText = .ok messages
  induction messages with
  | nil => rfl
  | cons message rest ih =>
    rw [List.map_cons, List.mapM_cons, ih]
    rfl

/-- The stored form of a result reads back as the result, but for a null identity. -/
theorem read_toValue (result : AuthResult) :
    AuthResult.read result.toValue = .ok result.withoutNull := by
  have fields : readFields
      [(codeField, .int result.code.toInt), (identityField, result.identity.getD .null),
        (messagesField, .list (result.messages.map .text))] {} =
      .ok ⟨some result.code, readIdentity (result.identity.getD .null), result.messages⟩ := by
    rw [readFields, if_pos rfl, AuthCode.read_toInt]
    show readFields [(identityField, _), (messagesField, _)] _ = _
    rw [readFields, if_neg (by decide), if_pos rfl, readFields, if_neg (by decide),
      if_neg (by decide), if_pos rfl, readMessages_map]
    rfl
  rw [withoutNull_eq, toValue, AuthResult.read, fields]
  rfl

end AuthResult

/-- A result that is stored in an event is read back with its code, its identity and its messages,
where a null identity counts as none.  The other parameters, the name and the flag stay. -/
theorem authResult?_setAuthResult (result : AuthResult) (event : Event) :
    let stored := event.setAuthResult result
    event.setParamAs (.ok result.toValue) Event.authParam = .ok stored ∧
      stored.authResult? = .ok (some result.withoutNull) ∧
      (∀ name, name ≠ Event.authParam → stored.param? name = event.param? name) ∧
      stored.name = event.name ∧ stored.stopped = event.stopped := by
  dsimp only
  refine ⟨rfl, ?_, fun name other => ?_, rfl, rfl⟩
  · have found : (event.setAuthResult result).param? Event.authParam = some result.toValue := by
      rw [Event.param?, Event.setAuthResult, Event.setParam, Table.get?_insert, if_pos rfl]
    rw [Event.authResult?, Event.paramAs, found]
    dsimp only [AuthResult.toValue]
    rw [← AuthResult.toValue, AuthResult.read_toValue]
  · rw [Event.param?, Event.setAuthResult, Event.setParam, Table.get?_insert, if_neg other]
    rfl

/-- A success for the null identity and a success without an identity leave the same event, so only
one of them can come back from it. -/
theorem setAuthResult_null :
    let vouched := AuthResult.success .null
    let nameless : AuthResult := ⟨.success, none, []⟩
    let event : Event := {}
    event.setAuthResult vouched = event.setAuthResult nameless ∧
      (event.setAuthResult vouched).authResult? = .ok (some nameless) ∧ vouched ≠ nameless := by
  dsimp only
  refine ⟨rfl, rfl, fun same => ?_⟩
  cases congrArg AuthResult.identity same

end PageTemplates
