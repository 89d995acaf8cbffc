import EntityGraph.Pattern.Parser
import EntityGraph.Pattern.Property

/-!
Search patterns with all flags resolved. `Pattern.ofText?` is absent for a text that is no pattern, for one that could
match part of a character, and for one that is too large.
-/
namespace EntityGraph

namespace Pattern

/-- A condition on the place between two characters. -/
inductive Look where
  | textStart
  | textEnd
  | lineStart
  | lineEnd
  /-- Line ends may be carriage returns, line feeds or both. -/
  | lineStartAny
  | lineEndAny
  | boundary (asciiOnly : Bool)
  | noBoundary (asciiOnly : Bool)
  | wordStart (asciiOnly : Bool)
  | wordEnd (asciiOnly : Bool)
  | wordStartHalf (asciiOnly : Bool)
  | wordEndHalf (asciiOnly : Bool)
deriving DecidableEq

end Pattern

inductive Pattern where
  | empty
  | char (test : Pattern.CharTest)
  | look (place : Pattern.Look)
  | sequence (first second : Pattern)
  | either (first second : Pattern)
  | repetition (inner : Pattern) (least : Nat) (most : Option Nat)

namespace Pattern

structure Flags where
  ignoreCase : Bool
  multiLine : Bool := false
  dotAll : Bool := false
  carriageReturn : Bool := false
  allScripts : Bool := true

namespace Flags

def set (flags : Flags) (flag : Flag) (value : Bool) : Flags :=
  match flag with
  | .ignoreCase => { flags with ignoreCase := value }
  | .multiLine => { flags with multiLine := value }
  | .dotAll => { flags with dotAll := value }
  | .carriageReturn => { flags with carriageReturn := value }
  | .allScripts => { flags with allScripts := value }
  | .swapGreed => flags
  | .ignoreBlanks => flags

def change (flags : Flags) (change : FlagChange) : Flags :=
  change.foldl (fun flags (flag, value) => flags.set flag value) flags

/-- The test holds in any case if case is ignored. -/
def inAnyCase (flags : Flags) (test : CharTest) : CharTest :=
  if flags.ignoreCase then .anyCase (!flags.allScripts) test else test

end Flags

/-- The classes between colons. -/
def namedTest : String → CharTest
  | "alnum" => .ranges [('0', '9'), ('A', 'Z'), ('a', 'z')]
  | "alpha" => .ranges [('A', 'Z'), ('a', 'z')]
  | "ascii" => .ascii
  | "blank" => .ranges [('\t', '\t'), (' ', ' ')]
  | "cntrl" => .or (.range 0 31) (.range 127 127)
  | "digit" => .ranges [('0', '9')]
  | "graph" => .ranges [('!', '~')]
  | "lower" => .ranges [('a', 'z')]
  | "print" => .ranges [(' ', '~')]
  | "punct" => .ranges [('!', '/'), (':', '@'), ('[', '`'), ('\x7b', '~')]
  | "space" => .or (.range 9 13) (.range 32 32)
  | "upper" => .ranges [('A', 'Z')]
  | "word" => .ranges [('0', '9'), ('A', 'Z'), ('_', '_'), ('a', 'z')]
  | "xdigit" => .ranges [('0', '9'), ('A', 'F'), ('a', 'f')]
  | _ => .none

def letterTest (allScripts : Bool) : LetterClass → CharTest
  | .digit => if allScripts then .sets [Category.decimalDigits] else namedTest "digit"
  | .space => if allScripts then .sets [blanks] else namedTest "space"
  | .word => if allScripts then .sets wordSets else namedTest "word"

/-- Only characters of all scripts have properties. -/
def propertyTest? (flags : Flags) (query : PropertyQuery) : Option CharTest :=
  if flags.allScripts then (Property.test? query.name query.value).map flags.inAnyCase else none

/-- A character of a set; with ASCII alone, a code above it has to be written as a byte. -/
def isSetMember (flags : Flags) (c : Char) (isByte : Bool) : Bool :=
  flags.allScripts || c.toNat < 128 || (isByte && c.toNat < 256)

mutual

def setTest? (flags : Flags) : SetTree → Option CharTest
  | .literal c isByte =>
    if isSetMember flags c isByte then some (flags.inAnyCase (.single c)) else none
  | .range first last isByte =>
    if isSetMember flags first isByte && isSetMember flags last isByte then
      some (flags.inAnyCase (.range first.toNat last.toNat))
    else none
  | .named name negated => some (.negateIf negated (flags.inAnyCase (namedTest name)))
  | .letter kind negated => some (.negateIf negated (letterTest flags.allScripts kind))
  | .property query negated => (propertyTest? flags query).map (.negateIf negated)
  | .bracketed negated inner => (setTest? flags inner).map (.negateIf negated)
  | .union items => unionTest? flags items
  | .operation kind left right => do
    let left ← setTest? flags left
    let right ← setTest? flags right
    match kind with
    | .intersection => some (.and left right)
    | .difference => some (.and left (.not right))
    | .symmetricDifference => some (.or (.and left (.not right)) (.and right (.not left)))

def unionTest? (flags : Flags) : List SetTree → Option CharTest
  | [] => some .none
  | item :: rest => do some (.or (← setTest? flags item) (← unionTest? flags rest))

end

/-- With ASCII alone a test speaks of bytes, and must not hold for one that is only part of a character. -/
def wholeChars? (flags : Flags) (test : CharTest) : Option CharTest :=
  if flags.allScripts then some test
  else if (List.range 128).any fun k => test.holds (128 + k) then none
  else some (.and test .ascii)

def placeLook (flags : Flags) : Place → Look
  | .caret =>
    if !flags.multiLine then .textStart else if flags.carriageReturn then .lineStartAny else .lineStart
  | .dollar => if !flags.multiLine then .textEnd else if flags.carriageReturn then .lineEndAny else .lineEnd
  | .textStart => .textStart
  | .textEnd => .textEnd
  | .wordBoundary => .boundary (!flags.allScripts)
  | .noWordBoundary => .noBoundary (!flags.allScripts)
  | .wordStart => .wordStart (!flags.allScripts)
  | .wordEnd => .wordEnd (!flags.allScripts)
  | .wordStartHalf => .wordStartHalf (!flags.allScripts)
  | .wordEndHalf => .wordEndHalf (!flags.allScripts)

def dotTest (flags : Flags) : CharTest :=
  if flags.dotAll then .any
  else if flags.carriageReturn then .not (.or (.single '\n') (.single '\r'))
  else .not (.single '\n')

mutual

/-- The pattern of a tree under some flags, and the flags in force after it. -/
def ofTree? (flags : Flags) : Tree → Option (Pattern × Flags)
  | .empty => some (.empty, flags)
  | .flags change => some (.empty, flags.change change)
  | .literal c isByte =>
    if !flags.allScripts && isByte && 128 ≤ c.toNat then none
    else some (.char (flags.inAnyCase (.single c)), flags)
  | .dot => if flags.allScripts then some (.char (dotTest flags), flags) else none
  | .place kind => some (.look (placeLook flags kind), flags)
  | .letter kind negated => do
    let test ← wholeChars? flags (.negateIf negated (letterTest flags.allScripts kind))
    some (.char test, flags)
  | .property query negated => do
    let test ← propertyTest? flags query
    some (.char (.negateIf negated test), flags)
  | .set tree => do
    let test ← (setTest? flags tree).bind (wholeChars? flags)
    some (.char test, flags)
  | .repetition inner least most => do
    let (inner, flags) ← ofTree? flags inner
    some (.repetition inner least most, flags)
  | .group change inner => do
    let (inner, _) ← ofTree? (flags.change change) inner
    some (inner, flags)
  | .alternation branches => ofBranches? flags branches
  | .concatenation parts => ofParts? flags parts

def ofParts? (flags : Flags) : List Tree → Option (Pattern × Flags)
  | [] => some (.empty, flags)
  | part :: rest => do
    let (first, flags) ← ofTree? flags part
    let (second, flags) ← ofParts? flags rest
    some (.sequence first second, flags)

def ofBranches? (flags : Flags) : List Tree → Option (Pattern × Flags)
  | [] => some (.char .none, flags)
  | branch :: rest => do
    let (first, flags) ← ofTree? flags branch
    let (second, flags) ← ofBranches? flags rest
    some (.either first second, flags)

end

/-- An estimate of the memory that a pattern takes with its repetitions written out, in bytes. -/
def weight : Pattern → Nat
  | empty => 32
  | char test => 32 + 24 * test.size
  | look _ => 32
  | sequence first second => first.weight + second.weight
  | either first second => first.weight + second.weight + 32
  | repetition inner least most => inner.weight * max 1 (max least (most.getD 0)) + 32

def maxWeight : Nat := 10 * 0x10_0000

def ofText? (ignoreCase : Bool) (text : String) : Option Pattern := do
  let tree ← tree? text
  let (pattern, _) ← ofTree? { ignoreCase } tree
  guard (pattern.weight ≤ maxWeight)
  some pattern

end Pattern

end EntityGraph
