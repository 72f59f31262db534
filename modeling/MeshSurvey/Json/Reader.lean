import MeshSurvey.Json.Value
import MeshSurvey.KeyMap
import MeshSurvey.Text.Numeral

/-!
# Reading JSON text

The reader accepts exactly one value between blanks. It is strict: no trailing commas, no comments,
no leading zeros, no control characters in texts, and surrogate escapes only in pairs. Arrays and
objects nest at most 127 deep, and a number whose magnitude no double-precision number reaches is
refused.

What becomes of an object's members is a parameter. Read as a value on its own, an object keeps the
last of several members with one name, in order of names; read as it is written, it keeps them all.
-/

namespace MeshSurvey.Json.Reader

/-! ## Blanks, names and texts -/

/-- Whether a character is insignificant between tokens. -/
def isBlank (c : Char) : Bool := c = ' ' || c = '\n' || c = '\t' || c = '\r'

/-- The text after leading blanks. -/
def skipBlanks (cs : List Char) : List Char := cs.dropWhile isBlank

/-- The text after a given beginning. -/
def after? : List Char → List Char → Option (List Char)
  | [], cs => some cs
  | w :: ws, c :: cs => if w = c then after? ws cs else none
  | _ :: _, [] => none

/-- The number that four hexadecimal digits stand for. -/
def hex4 (a b c d : Char) : Option Nat := do
  let a ← Text.digitIn 16 a
  let b ← Text.digitIn 16 b
  let c ← Text.digitIn 16 c
  let d ← Text.digitIn 16 d
  return ((a * 16 + b) * 16 + c) * 16 + d

/-- The character that a one-letter escape stands for. -/
def escaped (c : Char) : Option Char :=
  if c = '"' || c = '\\' || c = '/' then some c
  else if c = 'b' then some '\x08'
  else if c = 'f' then some '\x0c'
  else if c = 'n' then some '\n'
  else if c = 'r' then some '\r'
  else if c = 't' then some '\t'
  else none

/-- Puts a character in front of a text that was read. -/
def prepend (c : Char) (r : Option (List Char × List Char)) : Option (List Char × List Char) :=
  r.map fun (text, rest) ↦ (c :: text, rest)

/-- Reads a text up to its closing quote. -/
def textBody : List Char → Option (List Char × List Char)
  | [] => none
  | '"' :: rest => some ([], rest)
  | '\\' :: 'u' :: a :: b :: c :: d :: rest =>
    match hex4 a b c d with
    | none => none
    | some n =>
      if 0xD800 ≤ n ∧ n < 0xDC00 then
        match rest with
        | '\\' :: 'u' :: e :: f :: g :: h :: rest =>
          match hex4 e f g h with
          | none => none
          | some m =>
            if 0xDC00 ≤ m ∧ m < 0xE000 then
              prepend (Char.ofNat (0x10000 + (n - 0xD800) * 0x400 + (m - 0xDC00))) (textBody rest)
            else none
        | _ => none
      else if 0xDC00 ≤ n ∧ n < 0xE000 then none
      else prepend (Char.ofNat n) (textBody rest)
  | '\\' :: c :: rest =>
    match escaped c with
    | some d => prepend d (textBody rest)
    | none => none
  | c :: rest => if c.toNat < 0x20 ∨ c = '\\' then none else prepend c (textBody rest)

/-! ## Numbers -/

/-- The magnitude at which a number is too large for double precision: halfway from the greatest
double to the next power of two. -/
def overflowBound : Nat := Nat.pow 2 1024 - Nat.pow 2 970

/-- Whether `n * 10 ^ exponent` is too large for double precision, where `n` has at most `count`
digits. Below `10 ^ 308` no number is, and from `10 ^ 309` on every number is. -/
def overflows (count n : Nat) (exponent : Int) : Bool :=
  if n = 0 || count + exponent ≤ 308 then false
  else if 309 ≤ exponent then true
  else if 0 ≤ exponent then overflowBound ≤ n * Nat.pow 10 exponent.toNat
  else overflowBound * Nat.pow 10 (-exponent).toNat ≤ n

/-- The value of a run of decimal digits. -/
def digitsValue (cs : List Char) : Nat := cs.foldl (fun n c ↦ n * 10 + (c.toNat - '0'.toNat)) 0

/-- The parts of a number that was read, after its sign. -/
structure NumberParts where
  /-- The digits before the point. -/
  whole : List Char
  /-- The digits after the point; absent without a point. -/
  fraction : Option (List Char)
  /-- The exponent, if it is written. -/
  exponent : Option Int

/-- Reads the digits before the point: one zero, or digits that do not begin with zero. -/
def wholeFront (cs : List Char) : Option (List Char × List Char) :=
  match cs with
  | '0' :: rest => if (rest.head?.map Char.isDigit).getD false then none else some (['0'], rest)
  | _ =>
    let digits := cs.takeWhile Char.isDigit
    if digits.isEmpty then none else some (digits, cs.dropWhile Char.isDigit)

/-- Reads a point and the digits after it, if a point comes next. -/
def fractionFront (cs : List Char) : Option (Option (List Char) × List Char) :=
  match cs with
  | '.' :: rest =>
    let digits := rest.takeWhile Char.isDigit
    if digits.isEmpty then none else some (some digits, rest.dropWhile Char.isDigit)
  | _ => some (none, cs)

/-- Reads an exponent, if one comes next. -/
def exponentFront (cs : List Char) : Option (Option Int × List Char) :=
  let read (sign : Int) (cs : List Char) : Option (Option Int × List Char) :=
    let digits := cs.takeWhile Char.isDigit
    if digits.isEmpty then none
    else some (some (sign * digitsValue digits), cs.dropWhile Char.isDigit)
  match cs with
  | c :: rest =>
    if c = 'e' ∨ c = 'E' then
      match rest with
      | '+' :: rest => read 1 rest
      | '-' :: rest => read (-1) rest
      | _ => read 1 rest
    else some (none, cs)
  | [] => some (none, cs)

/-- The value of a number, unless it is too large. A whole number outside the 64-bit range and minus
zero are no integers. -/
def numberValue (negative : Bool) (parts : NumberParts) : Option Json :=
  let fraction := parts.fraction.getD []
  let digits := parts.whole ++ fraction
  let n := digitsValue digits
  let value : Int := if negative then -n else n
  if parts.fraction.isNone && parts.exponent.isNone && !(negative && n = 0) &&
      minInteger ≤ value && value ≤ maxInteger then
    some (.integer value)
  else
    let exponent := parts.exponent.getD 0 - fraction.length
    if overflows digits.length n exponent then none else some (.real value exponent)

/-- Reads a number. -/
def number (cs : List Char) : Option (Json × List Char) := do
  let (negative, cs) := match cs with
    | '-' :: rest => (true, rest)
    | _ => (false, cs)
  let (whole, cs) ← wholeFront cs
  let (fraction, cs) ← fractionFront cs
  let (exponent, cs) ← exponentFront cs
  let value ← numberValue negative ⟨whole, fraction, exponent⟩
  return (value, cs)

/-! ## Values -/

/-- Reads a value that does not nest. -/
def scalar (cs : List Char) : Option (Json × List Char) :=
  match cs with
  | '"' :: rest => (textBody rest).map fun (text, rest) ↦ (.string (String.ofList text), rest)
  | 'n' :: rest => (after? ['u', 'l', 'l'] rest).map (.null, ·)
  | 't' :: rest => (after? ['r', 'u', 'e'] rest).map (.bool true, ·)
  | 'f' :: rest => (after? ['a', 'l', 's', 'e'] rest).map (.bool false, ·)
  | _ => number cs

/-- Reads one or more items with commas between them, up to the closing character. The first
argument bounds the number of items. -/
def separated {α : Type} (item : List Char → Option (α × List Char)) (close : Char) :
    Nat → List Char → Option (List α × List Char)
  | 0, _ => none
  | bound + 1, cs => do
    let (x, rest) ← item cs
    match skipBlanks rest with
    | ',' :: rest =>
      let (xs, rest) ← separated item close bound rest
      return (x :: xs, rest)
    | c :: rest => if c = close then return ([x], rest) else none
    | [] => none

/-- Reads items with commas between them, possibly none, up to the closing character. -/
def items {α : Type} (item : List Char → Option (α × List Char)) (close : Char) (cs : List Char) :
    Option (List α × List Char) :=
  match skipBlanks cs with
  | [] => none
  | c :: rest => if c = close then some ([], rest) else separated item close cs.length (c :: rest)

/-- Reads a member of an object: a quoted name, a colon and a value. -/
def member (value : List Char → Option (Json × List Char)) (cs : List Char) :
    Option ((String × Json) × List Char) :=
  match skipBlanks cs with
  | '"' :: rest => do
    let (name, rest) ← textBody rest
    match skipBlanks rest with
    | ':' :: rest =>
      let (v, rest) ← value rest
      return ((String.ofList name, v), rest)
    | _ => none
  | _ => none

/-- Reads a value that nests at most `depth` deep. -/
def value (arrange : List (String × Json) → List (String × Json)) :
    (depth : Nat) → List Char → Option (Json × List Char)
  | 0, cs => scalar (skipBlanks cs)
  | depth + 1, cs =>
    match skipBlanks cs with
    | '[' :: rest => (items (value arrange depth) ']' rest).map fun (vs, rest) ↦ (.array vs, rest)
    | '\x7b' :: rest =>
      (items (member (value arrange depth)) '\x7d' rest).map fun (ms, rest) ↦
        (.object (arrange ms), rest)
    | cs => scalar cs

/-- Values nest at most this deep. -/
def maxDepth : Nat := 127

/-- Reads a whole text as one value. -/
def document (arrange : List (String × Json) → List (String × Json)) (cs : List Char) :
    Option Json :=
  match value arrange maxDepth cs with
  | some (v, rest) => if (skipBlanks rest).isEmpty then some v else none
  | none => none

end Reader

/-- The value that a text denotes. Of several members with one name an object keeps the last, and
its members come in order of their names. -/
def ofText? (text : String) : Option Json :=
  Reader.document (fun members ↦ (KeyMap.ofList members).entries) text.toList

/-- The value that a text denotes, with all members of objects in the order in which they are
written. -/
def ofTextAsWritten? (text : String) : Option Json :=
  Reader.document id text.toList

end MeshSurvey.Json
