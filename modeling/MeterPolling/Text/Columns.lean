import MeterPolling.Text.Emoji
import MeterPolling.Text.Ligature

namespace MeterPolling.Text

inductive JoinedEmoji where
  | bare
  | keycap
  | oneIndicator
  | evenIndicators
  | oddIndicators
  | tagLetters (n : Nat)
  | tagDigits (n : Nat)
  deriving DecidableEq, Repr

inductive Behind where
  | plain
  | lineFeed
  | emoji
  | tone
  | indicator
  | indicators
  | joined (j : JoinedEmoji)
  | alef
  | ligature (l : Ligature) (joiner : Bool)
  | vowelE
  | vowelAi
  deriving DecidableEq, Repr

inductive Selector where
  | text
  | emoji
  | wide
  deriving DecidableEq, Repr

def Selector.ofChar? (c : Char) : Option Selector :=
  if c = '\uFE0F' then some .emoji
  else if c = '\uFE0E' then some .text
  else if c = '\uFE01' then some .wide
  else none

/--
What stands behind a character, and the selectors between the two that may still bear on it. The emoji style
is tried first, then the text style, then the wide form.
-/
structure Context where
  behind : Behind := .plain
  emoji : Bool := false
  text : Bool := false
  wide : Bool := false
  deriving DecidableEq, Repr

/-- Whether selectors leave what stands behind them in effect. Ligatures reach across them. -/
def Behind.reachesAcross : Behind → Bool
  | .ligature _ _ | .alef => true
  | _ => false

def Context.withoutEmoji (k : Context) : Context :=
  match k.behind with
  | .joined _ => if k.emoji then {} else k
  | _ => { k with emoji := false }

/--
A selector in front of the others. In a ligature those that are tried after it stay in effect, and joined
emoji take the emoji style.
-/
def Context.select (k : Context) (s : Selector) : Context :=
  match s with
  | .emoji =>
    let joins := match k.behind with
      | .joined .bare | .joined .keycap => true
      | behind => behind.reachesAcross
    if joins then { k with emoji := true } else { emoji := true }
  | .text => if k.behind.reachesAcross then { k with text := true } else { text := true }
  | .wide => if k.behind.reachesAcross then { k with text := false, wide := true } else { wide := true }

def isTagDigit (c : Char) : Bool := isBetween 0xE0030 0xE0039 c
def isTagLetter (c : Char) : Bool := isBetween 0xE0061 0xE007A c
def isTagEnd (c : Char) : Bool := c.toNat = 0xE007F

def isTaggedFlag (c : Char) : Bool := c.toNat = 0x1F3F4

/--
A character in front of joined emoji. Indicators form flags in pairs, counted from the joiner, and the flag
next to it is part of the sequence.
-/
def JoinedEmoji.meet? (c : Char) : JoinedEmoji → Option (Int × Behind)
  | .bare =>
    if c = '\u20E3' then some (0, .joined .keycap)
    else if isIndicator c then some (1, .joined .oneIndicator)
    else if isTone c then some (0, .tone)
    else if isTagEnd c then some (0, .joined (.tagLetters 0))
    else if isEmoji c then some (0, .emoji)
    else none
  | .keycap => none
  | .oneIndicator => if isIndicator c then some (-1, .joined .evenIndicators) else none
  | .evenIndicators =>
    if isJoiner c then some (0, .joined .bare)
    else if isIndicator c then some (3, .joined .oddIndicators)
    else none
  | .oddIndicators =>
    if isJoiner c then some (0, .joined .bare)
    else if isIndicator c then some (-1, .joined .evenIndicators)
    else none
  | .tagLetters n =>
    if isTagLetter c && n < 6 then some (0, .joined (.tagLetters (n + 1)))
    else if isTagDigit c && n < 5 then some (0, .joined (.tagDigits 1))
    else if isTaggedFlag c && 3 ≤ n then some (0, .emoji)
    else none
  | .tagDigits n =>
    if isTagDigit c && n < 3 then some (0, .joined (.tagDigits (n + 1)))
    else if isTaggedFlag c && n = 3 then some (0, .emoji)
    else none

def Behind.meet? (c : Char) : Behind → Option (Int × Behind)
  | .plain | .lineFeed => none
  | .emoji => if isJoiner c then some (0, .joined .bare) else none
  | .tone =>
    if isToneBase c then some (0, .emoji)
    else if isJoiner c then some (0, .joined .bare)
    else none
  | .indicator => if isIndicator c then some (1, .indicators) else none
  | .indicators =>
    if isIndicator c then some (1, .indicators)
    else if isJoiner c then some (0, .joined .bare)
    else none
  | .joined j => j.meet? c
  | .alef =>
    if isLam c then some (0, .plain)
    else if isTransparent c then some (0, .alef)
    else none
  | .ligature l joiner =>
    if isJoiner c then some (0, .ligature l true)
    else if isIgnorableMark c then some (0, .ligature l joiner)
    else
      (l.extend? joiner c).map fun (columns, longer) =>
        (columns, match longer with
          | some l => .ligature l false
          | none => .plain)
  | .vowelE =>
    if c.toNat = 0x16D63 ∨ c.toNat = 0x16D69 then some (0, .plain)
    else if c.toNat = 0x16D67 then some (0, .vowelAi)
    else if c.toNat = 0x16D68 then some (1, .vowelE)
    else none
  | .vowelAi => if c.toNat = 0x16D63 then some (0, .plain) else none

def Behind.ofChar (c : Char) : Behind :=
  if c = '\n' then .lineFeed
  else if isEmoji c then .emoji
  else if isTone c then .tone
  else if isIndicator c then .indicator
  else if isAlef c then .alef
  else if c.toNat = 0x16D67 then .vowelE
  else if c.toNat = 0x16D68 then .vowelAi
  else
    match Ligature.ofChar? c with
    | some l => .ligature l false
    | none => .plain

def isQuotationMark (c : Char) : Bool := isBetween 0x2018 0x2019 c || isBetween 0x201C 0x201D c

def Context.step (c : Char) (k : Context) : Int × Context :=
  if k.emoji && isEmojiStyle c then
    (match k.behind with
      | .joined _ => 0
      | _ => 2, { behind := .emoji })
  else if c.toNat ≤ 0xA0 then
    (if k.behind = .lineFeed && c = '\r' then 0 else 1, { behind := .ofChar c })
  else
    let k := k.withoutEmoji
    match Selector.ofChar? c with
    | some s => (0, k.select s)
    | none =>
      if k.text && isTextStyle c then (1, {})
      else if k.wide && isQuotationMark c then (2, {})
      else
        match k.behind.meet? c with
        | some (columns, behind) => (columns, { behind })
        | none => (charColumns c, { behind := .ofChar c })

/--
The columns of a text, and the context of a character in front of it. What a character takes depends on what stands
behind it, so the text is read from its end.
-/
def scan (cs : List Char) : Int × Context :=
  cs.foldr (fun c (columns, k) =>
    let (more, k) := k.step c
    (columns + more, k)) (0, {})

def columns (s : String) : Nat := (scan s.toList).1.toNat

end MeterPolling.Text
