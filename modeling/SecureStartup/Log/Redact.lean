import SecureStartup.Text.Caseless
import SecureStartup.Text.Split

/-!
  Taking credentials out of a URL (`_sanitize_url`).

  A query parameter is sensitive when its name, in any case, is one of `sensitiveNames`.  Wherever
  such a name stands between a `?` or `&` and an `=`, everything up to the next `&` is replaced by
  `[REDACTED]`; delimiter and name stay as they were written, and so does all other text.

  The program has a pattern for this, `([?&])(delegation|token|user\.name|password|auth)=[^&]*`, and
  replaces every match from the left.  A match ends before a `&` or at the end of the text, so what
  follows it can begin the next one; no name is the beginning of another, so the order in which they are
  tried makes no difference (`sensitive?`).
-/

namespace SecureStartup.Log

open SecureStartup.Text

/-- The names of parameters whose values are never logged. -/
def sensitiveNames : List (List Char) :=
  ["delegation".toList, "token".toList, "user.name".toList, "password".toList, "auth".toList]

/-- What a redacted value is replaced by. -/
def mark : List Char := "[REDACTED]".toList

/-- A sensitive name and `=` in front of a text: the name as written, and what follows the `=`. -/
def sensitive? (s : List Char) : Option (List Char × List Char) :=
  sensitiveNames.findSome? fun name =>
    match dropWord name s with
    | some ('=' :: rest) => some (s.take name.length, rest)
    | _ => none

/-- The value that follows is part of the text, and shorter than it. -/
theorem sensitive?_rest_lt {s name rest : List Char} (h : sensitive? s = some (name, rest)) :
    rest.length < s.length := by
  unfold sensitive? at h
  obtain ⟨n, _, hn⟩ := List.exists_of_findSome?_eq_some h
  split at hn
  · rename_i r hr
    obtain ⟨v, hv, _⟩ := dropWord_eq_some hr
    simp only [Option.some.injEq, Prod.mk.injEq] at hn
    rw [hv, ← hn.2]
    simp
    omega
  · cases hn

/-- **The text without sensitive values.** -/
def redact (s : List Char) : List Char :=
  match s with
  | [] => []
  | c :: r =>
    if c == '?' || c == '&' then
      match _h : sensitive? r with
      | some (name, rest) => c :: (name ++ '=' :: mark ++ redact (rest.dropWhile (· != '&')))
      | none => c :: redact r
    else c :: redact r
termination_by s.length
decreasing_by
  · have h1 := sensitive?_rest_lt _h
    have h2 := (List.dropWhile_sublist (l := rest) (· != '&')).length_le
    simp only [List.length_cons]
    omega
  · simp
  · simp

/-- A redacted URL. -/
def redactUrl (url : String) : String := String.ofList (redact url.toList)

end SecureStartup.Log
