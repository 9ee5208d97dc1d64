/-
  FlowProcessor.Logging.Pattern.Modes — MODES OF THE NOTATION OF PATTERNS.

  What a character, a point, a set or a boundary in a written pattern stands for depends on modes,
  which letters switch on and off.

      i  letters stand for both cases        s  a point stands for the end of a line, too
      m  ^ and $ are for every line          U  repetitions prefer less
      R  a carriage return ends a line, too  x  white space and comments are passed over
      u  all of Unicode, and not only ASCII

  Nothing is known here about the letters and the words of all of Unicode.  So with `u`, which is on
  at first, cases, classes such as `\d` and the edges of words are refused.  Without it what might be
  outside of ASCII is refused: the point, characters of sets, and all that is said by exclusion.

    • `Modes.switched?`                                        — modes from letters
    • `Modes.ofChar?`, `Modes.ofPoint?`, `Modes.ofClass?`, `Modes.ofBoundary?` — patterns
    • `Modes.rangeSet?`, `Modes.classSet?`, `Modes.invert?` — sets
-/
import FlowProcessor.Logging.Pattern.Basic

namespace FlowProcessor

/-- The modes in which a pattern is read. -/
structure Modes where
  caseless : Bool := false
  everyLine : Bool := false
  pointEndsLine : Bool := false
  swapped : Bool := false
  ascii : Bool := false
  paired : Bool := false
  spaced : Bool := false
  deriving DecidableEq, Repr

/-- A character of a written pattern. -/
structure Written where
  character : Char
  /-- It is given as a byte, by two digits. -/
  isByte : Bool
  deriving DecidableEq, Repr

/-- A class of characters that is written by one letter. -/
structure LetterClass where
  set : CharSet
  inverted : Bool
  deriving DecidableEq, Repr

namespace Modes

/-! ## §1. Switching. -/

/-- Switches a mode. -/
def switch (on : Bool) (m : Modes) : Char → Modes
  | 'i' => { m with caseless := on }
  | 'm' => { m with everyLine := on }
  | 's' => { m with pointEndsLine := on }
  | 'U' => { m with swapped := on }
  | 'u' => { m with ascii := !on }
  | 'R' => { m with paired := on }
  | 'x' => { m with spaced := on }
  | _ => m

/-- Whether a character may stand among the letters that switch modes. -/
def isSwitch (c : Char) : Bool := ['i', 'm', 's', 'U', 'u', 'R', 'x', '-'].contains c

/-- Whether characters may be given to switch modes: each stands there at most once, and something
follows the dash after which modes are switched off. -/
def areSwitches (cs : List Char) : Bool :=
  cs.all isSwitch && cs.eraseDups.length == cs.length && cs.getLast? != some '-'

/-- Switches modes: the letters before a dash on and those after it off. -/
def switched? (m : Modes) (cs : List Char) : Option Modes :=
  if areSwitches cs then
    some (((cs.dropWhile (· != '-')).drop 1).foldl (switch false)
      ((cs.takeWhile (· != '-')).foldl (switch true) m))
  else none

/-! ## §2. Patterns. -/

/-- The pattern for a character. -/
def ofChar? (m : Modes) (w : Written) : Option Pattern :=
  let c := w.character
  if m.ascii then
    if w.isByte && CharSet.lastAscii < c.toNat then none
    else if m.caseless then some (.ofSet (CharSet.single c).bothCases .ascii)
    else some (.text [c])
  else if m.caseless then none
  else some (.text [c])

/-- The pattern for a point. -/
def ofPoint? (m : Modes) : Option Pattern :=
  if m.ascii then none
  else if m.pointEndsLine then some (.one .full .unicode)
  else
    let excluded : CharSet :=
      if m.paired then .ofRanges [('\n', '\n'), ('\r', '\r')] else .single '\n'
    some (.one excluded.complement .unicode)

/-- The pattern for a class that is written by a letter. -/
def ofClass? (m : Modes) (k : LetterClass) : Option Pattern :=
  if m.ascii && !k.inverted then some (.one k.set .ascii) else none

/-- The pattern for a boundary. -/
def ofBoundary? (m : Modes) : Boundary → Option Pattern
  | .textStart => some (.boundary .textStart)
  | .textEnd => some (.boundary .textEnd)
  | .lineStart =>
      some (.boundary
        (if !m.everyLine then .textStart else if m.paired then .pairedLineStart else .lineStart))
  | .lineEnd =>
      some (.boundary
        (if !m.everyLine then .textEnd else if m.paired then .pairedLineEnd else .lineEnd))
  | b => if m.ascii then some (.boundary b) else none

/-! ## §3. Sets. -/

/-- The alphabet of sets. -/
def alphabet (m : Modes) : Alphabet := if m.ascii then .ascii else .unicode

/-- A set in both cases if cases do not count. -/
def cased? (m : Modes) (s : CharSet) : Option CharSet :=
  if !m.caseless then some s else if m.ascii then some s.bothCases else none

/-- The set of the characters from one to another. -/
def rangeSet? (m : Modes) (first last : Written) : Option CharSet :=
  if last.character < first.character then none
  else if m.ascii && CharSet.lastAscii < last.character.toNat then none
  else m.cased? (.range first.character last.character)

/-- The characters that are not in a set. -/
def invert? (m : Modes) (s : CharSet) : Option CharSet :=
  if m.ascii then none else some s.complement

/-- The set of a class that is written by a letter. -/
def classSet? (m : Modes) (k : LetterClass) : Option CharSet :=
  if m.ascii && !k.inverted then some k.set else none

/-- The set with a name, or all characters that are not in it. -/
def namedSet? (m : Modes) (s : CharSet) (inverted : Bool) : Option CharSet :=
  (m.cased? s).bind fun s => if inverted then m.invert? s else some s

end Modes

end FlowProcessor
