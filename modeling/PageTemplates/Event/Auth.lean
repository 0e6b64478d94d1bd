import PageTemplates.Event

/-!
# Authentication results

A listener that authenticates reports back by storing an `AuthResult` in the
event under the parameter `authResult`.  The result is stored as a record of a
code, an identity and messages.  It is read back from such a record, whose
identity and messages may be absent, or from a list of the same three items in
this order.

`AuthCode.ofInt?_toInt` says that every code reads back from its number.
-/

namespace PageTemplates

/-- How an authentication ended. -/
inductive AuthCode where
  | success
  | failure
  | identityNotFound
  | identityAmbiguous
  | credentialInvalid
  | credentialEmpty
  | uncategorized
  deriving DecidableEq, Repr, Inhabited

namespace AuthCode

/-- The number of a code.  Only success is positive. -/
def toInt : AuthCode → Int
  | .success => 1
  | .failure => 0
  | .identityNotFound => -1
  | .identityAmbiguous => -2
  | .credentialInvalid => -3
  | .credentialEmpty => -4
  | .uncategorized => -5

/-- The code of a number. -/
def ofInt? : Int → Option AuthCode
  | 1 => some .success
  | 0 => some .failure
  | -1 => some .identityNotFound
  | -2 => some .identityAmbiguous
  | -3 => some .credentialInvalid
  | -4 => some .credentialEmpty
  | -5 => some .uncategorized
  | _ => none

@[simp] theorem ofInt?_toInt (code : AuthCode) : ofInt? code.toInt = some code := by
  cases code <;> rfl

/-- The name of a code. -/
def name : AuthCode → Text
  | .success => "Success".toList
  | .failure => "Failure".toList
  | .identityNotFound => "IdentityNotFound".toList
  | .identityAmbiguous => "IdentityAmbiguous".toList
  | .credentialInvalid => "CredentialInvalid".toList
  | .credentialEmpty => "CredentialEmpty".toList
  | .uncategorized => "Uncategorized".toList

/-- Reads a code from its number. -/
def read : Value.Reader AuthCode := fun value => do
  let number ← value.readInt32
  match ofInt? number with
  | some code => .ok code
  | none => .error (.unknownCode number)

end AuthCode

/-- What an authentication found out. -/
structure AuthResult where
  /-- How it ended. -/
  code : AuthCode
  /-- Who was authenticated. -/
  identity : Option Value
  /-- Why it ended so. -/
  messages : List Text

namespace AuthResult

/-- A success for an identity. -/
def success (identity : Value) : AuthResult := ⟨.success, some identity, []⟩

/-- A failure with one message. -/
def failure (code : AuthCode) (message : Text) : AuthResult := ⟨code, none, [message]⟩

/-- Whether the authentication succeeded. -/
def isValid (result : AuthResult) : Bool := decide (0 < result.code.toInt)

/-! ## The stored form -/

/-- The field of the code. -/
def codeField : Text := "code".toList

/-- The field of the identity. -/
def identityField : Text := "identity".toList

/-- The field of the messages. -/
def messagesField : Text := "messages".toList

/-- The phrase for a result in messages. -/
def phrase : Text := "struct AuthResult".toList

/-- The record that stores a result.  No identity is stored as null. -/
def toValue (result : AuthResult) : Value :=
  .record
    [(codeField, .int result.code.toInt),
      (identityField, result.identity.getD .null),
      (messagesField, .list (result.messages.map .text))]

/-- An identity is any value, and null stands for none. -/
def readIdentity : Value → Option Value
  | .null => none
  | value => some value

/-- The messages of a result. -/
def readMessages : Value.Reader (List Text) := Value.readList Value.readText

/-- The fields of a record read so far. -/
structure Fields where
  /-- The code, once met. -/
  code : Option AuthCode := none
  /-- The identity, if met and not null. -/
  identity : Option Value := none
  /-- The messages, if met. -/
  messages : List Text := []

/-- Reads the fields in the order they stand in, skipping unknown ones. -/
def readFields : (fields : List (Text × Value)) → (sofar : Fields) → Except ReadError Fields
  | [], sofar => .ok sofar
  | (key, value) :: rest, sofar =>
    if key = codeField then do
      let code ← AuthCode.read value
      readFields rest { sofar with code := some code }
    else if key = identityField then
      readFields rest { sofar with identity := readIdentity value }
    else if key = messagesField then do
      let messages ← readMessages value
      readFields rest { sofar with messages := messages }
    else readFields rest sofar

/-- Reads the items of a list as code, identity and messages. -/
def readItems : List Value → Except ReadError AuthResult
  | [] => .error (.tooShort 0 (phrase ++ " with 3 elements".toList))
  | [code] => do
    let code ← AuthCode.read code
    .ok ⟨code, none, []⟩
  | [code, identity] => do
    let code ← AuthCode.read code
    .ok ⟨code, readIdentity identity, []⟩
  | code :: identity :: messages :: more => do
    let code ← AuthCode.read code
    let messages ← readMessages messages
    if more.isEmpty then .ok ⟨code, readIdentity identity, messages⟩
    else .error (.tooLong (3 + more.length))

/-- Reads a result from its stored form. -/
def read : Value.Reader AuthResult
  | .record fields => do
    let read ← readFields fields {}
    match read.code with
    | some code => .ok ⟨code, read.identity, read.messages⟩
    | none => .error (.missingField codeField)
  | .list items => readItems items
  | value => .error (.wrongType value.found phrase)

end AuthResult

/-! ## Results in events -/

namespace Event

/-- The parameter that holds the result. -/
def authParam : Text := "authResult".toList

/-- Stores a result. -/
def setAuthResult (result : AuthResult) (event : Event) : Event :=
  event.setParam authParam result.toValue

/-- The stored result, if there is one. -/
def authResult? (event : Event) : Except EventError (Option AuthResult) :=
  event.paramAs AuthResult.read authParam

end Event

end PageTemplates
