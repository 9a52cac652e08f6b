import SheetInspector.Pattern.Ranges

set_option autoImplicit false

/-! # Regular expressions

What a pattern stands for: characters of given sets, conditions on the place, and sequences,
choices and repetitions of these.

An expression is searched for in a text by following all its matches at once: from a set of
places it leads to the set of the places where its matches from there end. Repetition follows
its body for as long as that leads to further places, so it ends even where the body matches the
empty text.
-/

namespace SheetInspector.Pattern

/-- A condition on the words around a place. -/
inductive WordLook where
  | boundary
  | noBoundary
  | start
  | stop
  /-- No word in front. -/
  | startHalf
  /-- No word behind. -/
  | stopHalf
  deriving DecidableEq, Repr

/-- A condition on a place in a text. -/
inductive Look where
  | textStart
  | textEnd
  /-- The start of a line; `returns` says whether carriage returns end lines too. -/
  | lineStart (returns : Bool)
  /-- The end of a line. -/
  | lineEnd (returns : Bool)
  /-- A condition on words, which are made of the letters of ASCII alone or of all letters. -/
  | word (look : WordLook) (allLetters : Bool)
  deriving DecidableEq, Repr

/-- A regular expression. -/
inductive Regex where
  | empty
  | one (set : Ranges)
  | look (condition : Look)
  | seq (first second : Regex)
  | alt (first second : Regex)
  /-- From `least` to `most` times. -/
  | rep (least : Nat) (most : Option Nat) (body : Regex)
  | group (body : Regex)
  deriving DecidableEq, Repr

/-- Whether a character belongs to a word. -/
def isWordChar (c : Char) : Bool := c.isAlphanum || c == '_'

/-- Whether a condition on words holds between two characters. -/
def WordLook.holds (look : WordLook) (before after : Option Char) : Bool :=
  let inFront := before.any isWordChar
  let behind := after.any isWordChar
  match look with
  | .boundary => inFront != behind
  | .noBoundary => inFront == behind
  | .start => !inFront && behind
  | .stop => inFront && !behind
  | .startHalf => !inFront
  | .stopHalf => !behind

/-- Whether a condition holds between two characters; at either end of the text one is missing. A
carriage return and a line feed behind it are not parted. -/
def Look.holds (look : Look) (before after : Option Char) : Bool :=
  match look with
  | .textStart => before.isNone
  | .textEnd => after.isNone
  | .lineStart false => before.isNone || before == some '\n'
  | .lineEnd false => after.isNone || after == some '\n'
  | .lineStart true =>
    before.isNone || before == some '\n' || (before == some '\r' && after != some '\n')
  | .lineEnd true =>
    after.isNone || after == some '\r' || (after == some '\n' && before != some '\r')
  | .word look _ => look.holds before after

namespace Regex

/-! ## Searching -/

/-- A set of places, in ascending order. -/
abbrev Places := List Nat

/-- The places of either of two sets. -/
def bothPlaces (a b : Places) : Places := (a.merge b fun x y => x ≤ y).eraseReps

/-- What a function of places leads to when it is applied `n` times. -/
def iterate (f : Places → Places) : Nat → Places → Places
  | 0, places => places
  | n + 1, places => iterate f n (f places)

/-- What a function of places leads to when it is applied up to `n` times. -/
def spread (f : Places → Places) : Nat → Places → Places
  | 0, places => places
  | n + 1, places =>
    let further := bothPlaces places (f places)
    if further.length = places.length then places else spread f n further

/-- The character in front of a place. -/
def charBefore? (text : Array Char) (place : Nat) : Option Char :=
  if place = 0 then none else text[place - 1]?

/-- The places where matches from given places end. Among more repetitions than there are
characters some match the empty text, so their number can be cut down to one more than that. -/
def reach (text : Array Char) : Regex → Places → Places
  | .empty, places => places
  | .one set, places =>
    places.filterMap fun place =>
      if text[place]?.any (set.contains ·.toNat) then some (place + 1) else none
  | .look condition, places =>
    places.filter fun place => condition.holds (charBefore? text place) text[place]?
  | .seq first second, places => reach text second (reach text first places)
  | .alt first second, places => bothPlaces (reach text first places) (reach text second places)
  | .rep least most body, places =>
    let enough := text.size + 1
    let further := match most with
      | none => enough
      | some n => min (n - least) enough
    spread (reach text body) further (iterate (reach text body) (min least enough) places)
  | .group body, places => reach text body places

/-- Whether a text has a match anywhere. -/
def occursIn (r : Regex) (text : String) : Bool :=
  let chars := text.toList.toArray
  !(r.reach chars (List.range (chars.size + 1))).isEmpty

/-! ## Building -/

/-- Whether the expression can match the empty text alone. -/
def isHollow : Regex → Bool
  | .empty => true
  | .one _ => false
  | .look _ => true
  | .seq first second => first.isHollow && second.isHollow
  | .alt first second => first.isHollow && second.isHollow
  | .rep _ _ body => body.isHollow
  | .group body => body.isHollow

/-- A repetition in its simplest form: what can only match the empty text need not be repeated. -/
def repeated (least : Nat) (most : Option Nat) (body : Regex) : Regex :=
  let (least, most) :=
    if body.isHollow then (min least 1, some (min (most.getD 1) 1)) else (least, most)
  if most = some 0 then .empty
  else if least = 1 ∧ most = some 1 then body
  else .rep least most body

/-- Expressions one behind the other. -/
def sequence : List Regex → Regex
  | [] => .empty
  | [r] => r
  | r :: rest => .seq r (sequence rest)

/-- A choice between expressions. -/
def choice : List Regex → Regex
  | [] => .one .none
  | [r] => r
  | r :: rest => .alt r (choice rest)

/-! ## Size -/

/-- Whether a condition of the expression is about words made of all letters. -/
def needsAllLetters : Regex → Bool
  | .empty => false
  | .one _ => false
  | .look condition => match condition with
    | .word _ allLetters => allLetters
    | _ => false
  | .seq first second => first.needsAllLetters || second.needsAllLetters
  | .alt first second => first.needsAllLetters || second.needsAllLetters
  | .rep _ _ body => body.needsAllLetters
  | .group body => body.needsAllLetters

/-- The number of bytes of a state of an automaton. -/
def stateSize : Nat := 32

/-- The number of bytes of a transition of a state with several of them. -/
def transitionSize : Nat := 8

/-- The number of bytes of a branch of a state that branches. -/
def branchSize : Nat := 4

/-- The number of bytes of a state with two branches. -/
def forkSize : Nat := stateSize + 2 * branchSize

/-- The number of bytes of the states that decode any character beyond ASCII, from its first byte
on or, backwards, from its last one. -/
def decoderSize (backward : Bool) : Nat :=
  if backward then 28 * stateSize + 8 * branchSize else 9 * stateSize + 15 * transitionSize

/-- The number of bytes of the states for a character of a set: one state for each byte of a single
character, and two for a set within ASCII. -/
def setSize (backward : Bool) (set : Ranges) : Nat :=
  match set.list with
  | [(low, high)] =>
    if low = high then (Char.ofNat low).utf8Size * stateSize
    else if high < 0x80 then 2 * stateSize + transitionSize
    else decoderSize backward + stateSize
  | ranges =>
    if set.isBelow 0x80 then 2 * stateSize + ranges.length * transitionSize
    else
      decoderSize backward +
        ranges.length * (if backward then stateSize + branchSize else transitionSize)

/-- The number of bytes of an automaton for the expression. One that reads forward also keeps where
groups begin and end. -/
def size (backward : Bool) : Regex → Nat
  | .empty => stateSize
  | .one set => setSize backward set
  | .look _ => stateSize
  | .seq first second => first.size backward + second.size backward
  | .alt first second =>
    first.size backward + second.size backward +
      match second with
      | .alt _ _ => branchSize
      | _ => forkSize + stateSize
  | .rep least most body =>
    let n := body.size backward
    match most with
    | none => if least = 0 then n + forkSize else least * n + forkSize
    | some most =>
      if least = most then least * n
      else least * n + (most - least) * (n + forkSize) + stateSize
  | .group body => body.size backward + if backward then 0 else 2 * stateSize

/-- The greatest number of bytes of an automaton. -/
def sizeLimit : Nat := 10485760

end Regex

end SheetInspector.Pattern
