/-
Module: SecAI.Auth.Passwords
Purpose: The approved password policy.
Trusted boundary: the Unicode database is a parameter
Main exports:
  UnicodeText, validatePasswordPolicy
-/
import Mathlib.Data.List.Infix

namespace SecAI.Auth

/-- The operations of `str` and `unicodedata` that read the Unicode
database. -/
structure UnicodeText where
  nfc : String → String
  strip : String → String
  casefold : String → String
  /-- `unicodedata.category(c).startswith("C")`. -/
  isControlCategory : Char → Bool
  isAlpha : Char → Bool

/-- `string.punctuation`. -/
def punctuation : List Char :=
  "!\"#$%&'()*+,-./:;<=>?@[\\]^_`\x7b|\x7d~".toList

def blockedPasswords : List String :=
  ["password", "password1!", "qwerty123!", "secai123!", "admin123!"]

/-- `needle in text`. -/
def containsText (needle text : String) : Bool :=
  decide (needle.toList <:+: text.toList)

structure PasswordPolicyResult where
  accepted : Bool
  reasons : List String

def validatePasswordPolicy (unicode : UnicodeText)
    (password username : String) : PasswordPolicyResult :=
  let normalized := unicode.nfc password
  let folded := unicode.casefold normalized
  let reason (violated : Bool) (message : String) : List String :=
    if violated then [message] else []
  let reasons :=
    reason (decide (normalized.length < 9))
      "비밀번호는 9자 이상이어야 합니다." ++
    reason (decide (normalized.length > 128 ∨ normalized.utf8ByteSize > 512))
      "비밀번호가 허용 길이를 초과했습니다." ++
    reason (normalized.toList.any unicode.isControlCategory)
      "제어 문자는 사용할 수 없습니다." ++
    reason (!normalized.toList.any unicode.isAlpha)
      "문자를 한 개 이상 포함해야 합니다." ++
    reason (!normalized.toList.any fun c => decide ('0' ≤ c ∧ c ≤ '9'))
      "숫자를 한 개 이상 포함해야 합니다." ++
    reason (!normalized.toList.any fun c => punctuation.contains c)
      "특수문자를 한 개 이상 포함해야 합니다." ++
    reason (blockedPasswords.contains folded ||
        containsText (unicode.casefold username) folded)
      "쉽게 추측할 수 있는 비밀번호는 사용할 수 없습니다."
  { accepted := reasons.isEmpty, reasons := reasons }

end SecAI.Auth
