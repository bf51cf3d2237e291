/-!
# Glob patterns

Patterns over names: `?` stands for one character, `*` for any run, `**` for whole folders, brackets for a class of
characters. Matching tries the remaining pattern at each place behind a star, from left to right. A pattern that runs out of
text before its own end fails as a whole, and no further place is tried.
-/

namespace RecordSheets

/-- One entry of a character class. -/
inductive ClassItem where
  | single (c : Char)
  | range (low high : Char)
  deriving DecidableEq, Repr

/-- One part of a pattern. -/
inductive GlobToken where
  | literal (c : Char)
  | anyChar
  | star
  /-- Two stars: nothing, or a beginning that ends just behind a slash. -/
  | deepStar
  | within (items : List ClassItem)
  | outside (items : List ClassItem)
  deriving DecidableEq, Repr

/-- How an attempt to match ends. -/
inductive Verdict where
  | hit
  /-- This attempt failed; another place may do. -/
  | miss
  /-- The text ran out, so no other place can do. -/
  | hopeless
  deriving DecidableEq, Repr

namespace ClassItem

/-- Tells whether an entry holds a character. -/
def holds (c : Char) : ClassItem → Bool
  | .single d => c == d
  | .range low high => low ≤ c && c ≤ high

/-- The entries of a class: three characters with a hyphen in the middle are a range, all others stand for themselves. -/
def ofChars : List Char → List ClassItem
  | low :: '-' :: high :: rest => .range low high :: ofChars rest
  | c :: rest => .single c :: ofChars rest
  | [] => []

end ClassItem

namespace GlobToken

/-- The contents of a class up to its closing bracket, which is not looked for in the first place. -/
def classBody? : List Char → Option (List Char)
  | [] => none
  | c :: rest => if rest.contains ']' then some (c :: rest.takeWhile (· != ']')) else none

/-- The class behind an opening bracket, with the number of characters up to its closing bracket, this one with it. -/
def bracket? (cs : List Char) : Option (GlobToken × Nat) :=
  match cs with
  | '!' :: rest => (classBody? rest).map fun body => (.outside (ClassItem.ofChars body), body.length + 2)
  | _ => (classBody? cs).map fun body => (.within (ClassItem.ofChars body), body.length + 1)

/-- The parts of the rest of a pattern, given the character before it. The first `skip` characters belong to a part that was
read already. -/
def ofChars? (before : Option Char) (skip : Nat) : List Char → Option (List GlobToken)
  | [] => some []
  | c :: rest =>
    match skip with
    | skip + 1 => ofChars? (some c) skip rest
    | 0 =>
      if c = '?' then (ofChars? (some c) 0 rest).map (.anyChar :: ·)
      else if c = '*' then
        match (rest.takeWhile (· == '*')).length with
        | 0 => (ofChars? (some c) 0 rest).map (.star :: ·)
        | 1 =>
          if before = none ∨ before = some '/' then
            match rest.drop 1 with
            | [] => (ofChars? (some c) 1 rest).map (.deepStar :: ·)
            | '/' :: _ => (ofChars? (some c) 2 rest).map (.deepStar :: ·)
            | _ => none
          else none
        | _ => none
      else if c = '[' then
        (bracket? rest).bind fun (token, used) => (ofChars? (some c) used rest).map (token :: ·)
      else (ofChars? (some c) 0 rest).map (.literal c :: ·)

/-- Tells whether a part other than a star accepts a character. -/
def accepts (c : Char) : GlobToken → Bool
  | .literal d => c == d
  | .anyChar => true
  | .within items => items.any (ClassItem.holds c)
  | .outside items => !items.any (ClassItem.holds c)
  | .star => false
  | .deepStar => false

end GlobToken

/-- A pattern: its parts from left to right. -/
structure Glob where
  /-- The parts from left to right. -/
  tokens : List GlobToken
  deriving DecidableEq, Repr

namespace Glob

/-- The pattern of a text; nothing if the text is no pattern. -/
def ofString? (text : String) : Option Glob := (GlobToken.ofChars? none 0 text.toList).map Glob.mk

/-- Takes characters one by one and goes on behind each one that `stop` holds of; behind the last one it goes on in any
case. -/
def sweep (goOn : List Char → Verdict) (stop : Char → Bool) : List Char → Verdict
  | [] => goOn []
  | c :: rest =>
    if stop c then
      match goOn rest with
      | .miss => sweep goOn stop rest
      | verdict => verdict
    else sweep goOn stop rest

/-- Matches the parts of a pattern with a text. -/
def attempt : List GlobToken → List Char → Verdict
  | [], [] => .hit
  | [], _ :: _ => .miss
  | .star :: more, cs =>
    match attempt more cs with
    | .miss => sweep (attempt more) (fun _ => true) cs
    | verdict => verdict
  | .deepStar :: more, cs =>
    match attempt more cs with
    | .miss => sweep (attempt more) (· == '/') cs
    | verdict => verdict
  | _ :: _, [] => .hopeless
  | token :: more, c :: rest => if token.accepts c then attempt more rest else .miss

/-- Tells whether a pattern matches a name. -/
def accepts (g : Glob) (name : String) : Bool := attempt g.tokens name.toList == .hit

end Glob

end RecordSheets
