import LfpPipe.SegmentPaths
import LfpPipe.SignInFlows

/-!
# Return targets of the console

The filter of return targets looks at the text and at its decoded path. The
redirect and the browser remove the dot segments of that path afterwards. What
comes out is compared here with the pages that a sign-in may return to. Only
texts that begin with a slash reach the URL parser, which is written out for
them.
-/

namespace LfpPipe.ConsoleReturns

open RustText GoText SignInFlows SegmentPaths

/-- The value of a hexadecimal digit. -/
def unhex (c : Char) : Option ℕ :=
  if '0' ≤ c ∧ c ≤ '9' then some (c.toNat - '0'.toNat)
  else if 'a' ≤ c ∧ c ≤ 'f' then some (c.toNat - 'a'.toNat + 10)
  else if 'A' ≤ c ∧ c ≤ 'F' then some (c.toNat - 'A'.toNat + 10)
  else none

/-- Replace the escapes of a text; a byte that one stands for is one character. -/
def unescape : List Char → Option (List Char)
  | [] => some []
  | '%' :: high :: low :: rest =>
    match unhex high, unhex low with
    | some h, some l => (unescape rest).map (Char.ofNat (16 * h + l) :: ·)
    | _, _ => none
  | c :: rest => if c = '%' then none else (unescape rest).map (c :: ·)

/-- The text before the first occurrence of a character, and behind it. -/
def cut (c : Char) (text : List Char) : List Char × List Char :=
  (text.takeWhile (· != c), (text.dropWhile (· != c)).drop 1)

/-- A control byte. -/
def isControl (c : Char) : Bool := c.toNat < 32 || c.toNat == 127

/-- Parse a text that begins with a single slash: the fragment is cut off first,
then the query; the rest is the path. -/
def parseRooted (text : String) : Option ParsedURL :=
  let (reference, fragment) := cut '#' text.toList
  if reference.any isControl then none
  else
    match unescape (cut '?' reference).1, unescape fragment with
    | some path, some _ => some ⟨false, "", String.ofList path⟩
    | _, _ => none

/-- A text that the filter does not parse. -/
def refused (candidate : String) : Bool :=
  candidate == "" || maxReturnToLength < candidate.utf8ByteSize || !hasPrefix candidate "/" ||
    hasPrefix candidate "//" || candidate.toList.contains '\\'

/-- The filter, with its tests by name. -/
theorem safeReturnTo_eq (parse : UrlParser) (raw : String) :
    safeReturnTo parse raw =
      if refused (trimSpace raw) then "/"
      else
        match parse (trimSpace raw) with
        | none => "/"
        | some parsed => if unsafeTarget parsed then "/" else trimSpace raw := rfl

end LfpPipe.ConsoleReturns
