import MeshSurvey.Audit.Registry
import MeshSurvey.Text.Numeral
import MeshSurvey.Text.Split

/-!
# Known vulnerabilities

Reports the published vulnerabilities of the control plane's version. A version has two or three
numbers with dots between them, of which only the first three parts count; a `v` before them and a
suffix after a hyphen or a plus sign are allowed. A vulnerability affects ranges of versions, each
up to but not including its end.
-/

namespace MeshSurvey

/-- The version of a control plane. -/
structure Version where
  /-- The first number. -/
  major : UInt32
  /-- The second number. -/
  minor : UInt32
  /-- The third number. -/
  patch : UInt32
  deriving DecidableEq, Repr, Inhabited

namespace Version

/-- Whether a version comes before another. -/
def precedes (v w : Version) : Bool :=
  v.major < w.major ||
    v.major = w.major && (v.minor < w.minor || v.minor = w.minor && v.patch < w.patch)

/-- Reads a number of a version. -/
def readNumber (cs : List Char) : Option UInt32 :=
  (Text.readBelow 10 UInt32.size cs).map .ofNat

/-- The text without the letter that may stand before a version. -/
def dropLetter : List Char → List Char
  | 'v' :: cs => cs
  | cs => cs

/-- Reads a version. A missing third number is zero. -/
def read (text : String) : Option Version :=
  let core := (dropLetter text.toList).takeWhile fun c ↦ c ≠ '-' && c ≠ '+'
  match Text.pieces '.' core with
  | major :: minor :: rest => do
    let major ← readNumber major
    let minor ← readNumber minor
    let patch ← match rest with
      | patch :: _ => readNumber patch
      | [] => some 0
    return ⟨major, minor, patch⟩
  | _ => none

end Version

/-- The versions from one up to but not including another. -/
structure VersionRange where
  /-- The first version. -/
  first : Version
  /-- The version after the last. -/
  bound : Version
  deriving DecidableEq, Repr, Inhabited

/-- Whether a version lies in a range. -/
def VersionRange.contains (r : VersionRange) (v : Version) : Bool :=
  !v.precedes r.first && v.precedes r.bound

/-- A published vulnerability. -/
structure Vulnerability where
  /-- Its identifier. -/
  id : String
  /-- The versions affected. -/
  affected : List VersionRange
  /-- What it is. -/
  summary : String
  deriving DecidableEq, Repr, Inhabited

namespace Vulnerability

/-- Whether a version is affected. -/
def affects (k : Vulnerability) (v : Version) : Bool := k.affected.any (·.contains v)

/-- The versions from `a.b.c` up to `d.e.f`. -/
def range (a b c d e f : UInt32) : VersionRange := ⟨⟨a, b, c⟩, ⟨d, e, f⟩⟩

/-- The vulnerabilities that are looked for by default. -/
def published : List Vulnerability := [
  { id := "CVE-2020-8595"
    affected := [range 1 2 0 1 3 8, range 1 4 0 1 4 4]
    summary := "authorization bypass through case-insensitive exact path matching" },
  { id := "CVE-2021-34824"
    affected := [range 1 0 0 1 8 6, range 1 9 0 1 9 6]
    summary := "gateway TLS credentials readable across namespaces" },
  { id := "CVE-2021-39156"
    affected := [range 1 0 0 1 9 8, range 1 10 0 1 10 4, range 1 11 0 1 11 1]
    summary := "authorization bypass through URI fragments" },
  { id := "CVE-2022-21679"
    affected := [range 1 12 0 1 12 2]
    summary := "authorization policies misapplied for proxies older than the control plane" },
  { id := "CVE-2022-23635"
    affected := [range 1 0 0 1 11 7, range 1 12 0 1 12 4, range 1 13 0 1 13 1]
    summary := "control plane crash from a crafted unauthenticated request" },
  { id := "CVE-2022-24726"
    affected := [range 1 0 0 1 11 8, range 1 12 0 1 12 5, range 1 13 0 1 13 2]
    summary := "control plane crash from a crafted webhook request" }]

end Vulnerability

namespace VulnerabilityAudit

/-- The name of the auditor. -/
def name : String := "cve"

/-- The finding on a vulnerability of a version, given the version's text. -/
def finding (version : String) (k : Vulnerability) : Finding :=
  ⟨name, none, k.id ++ " affects control plane " ++ version ++ ": " ++ k.summary⟩

/-- The findings on a version, if it can be read. -/
def findings (known : List Vulnerability) (version : String) : Except Failure (List Finding) :=
  match Version.read version with
  | some v => .ok ((known.filter (·.affects v)).map (finding version))
  | none => .error (.unknownVersion version)

/-- Reports the vulnerabilities among those known. A version that is not known reads as the empty
text, which is none. -/
def auditor (known : List Vulnerability) : Auditor :=
  ⟨name, fun context ↦ findings known (context.version.getD "")⟩

end VulnerabilityAudit

end MeshSurvey
