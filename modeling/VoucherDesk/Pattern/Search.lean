import VoucherDesk.Pattern.Reader
import VoucherDesk.Text.Lowercase

/-!
# Searching for patterns

A node is matched at a place in a text and hands every way of matching, in order, to what
follows it; the first way that what follows accepts is taken. A repetition stops when a
round has taken no character. Where case is ignored two characters match when their
lower-case forms are equal or share a capital.
-/

namespace VoucherDesk.Pattern

/-- A place in a text with the groups captured on the way, the latest first. -/
structure Cursor where
  place : Nat
  groups : List (Nat × Nat × Nat) := []

/-- What follows a node: whether it accepts a cursor, and where the match then ends. -/
abbrev Rest := Cursor → Option Cursor

namespace Category

/-- Whether a code point belongs to a class, among ASCII characters or all. -/
def contains (ascii : Bool) (code : Nat) : Category → Bool
  | .digit => if ascii then 48 ≤ code && code ≤ 57 else Text.isDecimalCode code
  | .notDigit => !(digit.contains ascii code)
  | .space =>
    if ascii then code == 32 || (9 ≤ code && code ≤ 13) else Text.isBlankCode code
  | .notSpace => !(space.contains ascii code)
  | .word => if ascii then code < 128 && Text.isWordCode code else Text.isWordCode code
  | .notWord => !(word.contains ascii code)
termination_by c => match c with | .notDigit | .notSpace | .notWord => 1 | _ => 0

end Category

namespace Flags

/-- The lower-case form of a code point in the alphabet of the flags. -/
def lowercase (f : Flags) (code : Nat) : Nat :=
  if f.ascii then (if code < 128 then Text.lowercaseCode code else code)
  else Text.lowercaseCode code

/-- The lower-case forms that match this one. -/
def forms (f : Flags) (lower : Nat) : List Nat :=
  if f.ascii then [lower] else lower :: Text.sameCapital lower

/-- All code points that match a code point when case is ignored. -/
def variants (f : Flags) (code : Nat) : List Nat :=
  (f.forms (f.lowercase code)).flatMap fun form =>
    form :: (Text.capitalsOf form).filter fun c => !f.ascii || c < 128

/-- Whether a code point matches another one. -/
def matchesCode (f : Flags) (wanted code : Nat) : Bool :=
  if f.ignoreCase then (f.forms (f.lowercase code)).contains (f.lowercase wanted)
  else wanted == code

/-- Whether a code point matches what a character set lists; beyond the basic plane a listed
character is compared with the lower-case form. -/
def matchesItem (f : Flags) (code : Nat) : SetItem → Bool
  | .category c => c.contains f.ascii code
  | .code c =>
    if f.ignoreCase && 0xFFFF < c then f.lowercase code == c else f.matchesCode c code
  | .range low high =>
    if f.ignoreCase then (f.variants code).any fun c => low ≤ c && c ≤ high
    else low ≤ code && code ≤ high

end Flags

/-- Whether an anchor holds at a place. -/
def Anchor.holds (f : Flags) (text : Array Nat) (place : Nat) (a : Anchor) : Bool :=
  let isBreak (i : Nat) : Bool := text[i]? == some 10
  let isWord (i : Nat) : Bool := text[i]?.any fun c => Category.word.contains f.ascii c
  let edge := (place != 0 && isWord (place - 1)) != isWord place
  match a with
  | .textStart => place == 0
  | .textEnd => place == text.size
  | .lineStart => place == 0 || (f.multiLine && isBreak (place - 1))
  | .lineEnd =>
    place == text.size || (isBreak place && (f.multiLine || place + 1 == text.size))
  | .wordEdge => !text.isEmpty && edge
  | .notWordEdge => !text.isEmpty && !edge

/-- One way of matching the body of a repetition. -/
abbrev Body := Cursor → Rest → Option Cursor

/-- Whether another round is allowed: the bound is not reached and the last round took something. -/
def mayRepeat (most : Option Nat) (count : Nat) (last : Option Nat) (c : Cursor) : Bool :=
  most.all (count < ·) && last != some c.place

/-- Rounds of a repetition that takes as many as possible. -/
def repeatGreedy (body : Body) (least : Nat) (most : Option Nat) :
    (fuel count : Nat) → (last : Option Nat) → Cursor → Rest → Option Cursor
  | 0, _, _, c, rest => rest c
  | fuel + 1, count, last, c, rest =>
    if count < least then
      body c fun d => repeatGreedy body least most fuel (count + 1) last d rest
    else if mayRepeat most count last c then
      (body c fun d => repeatGreedy body least most fuel (count + 1) (some c.place) d rest).orElse
        fun _ => rest c
    else rest c

/-- Rounds of a repetition that takes as few as possible. -/
def repeatLazy (body : Body) (least : Nat) (most : Option Nat) :
    (fuel count : Nat) → (last : Option Nat) → Cursor → Rest → Option Cursor
  | 0, _, _, c, rest => rest c
  | fuel + 1, count, last, c, rest =>
    if count < least then
      body c fun d => repeatLazy body least most fuel (count + 1) last d rest
    else
      (rest c).orElse fun _ =>
        if mayRepeat most count last c then
          body c fun d => repeatLazy body least most fuel (count + 1) (some c.place) d rest
        else none

/-- Rounds of a repetition that takes as many as possible and gives none back. -/
def repeatForGood (body : Body) (least : Nat) (most : Option Nat) :
    (fuel count : Nat) → Cursor → Option Cursor
  | 0, _, c => some c
  | fuel + 1, count, c =>
    if count < least then
      (body c some).bind fun d => repeatForGood body least most fuel (count + 1) d
    else if mayRepeat most count none c then
      match body c some with
      | none => some c
      | some d => if d.place = c.place then some d
        else repeatForGood body least most fuel (count + 1) d
    else some c

/-- A single character of a class. -/
def single (text : Array Nat) (p : Nat → Bool) (c : Cursor) (rest : Rest) : Option Cursor :=
  match text[c.place]? with
  | some code => if p code then rest { c with place := c.place + 1 } else none
  | none => none

/-- The part of a text that a group has captured. -/
def captured? (text : Array Nat) (c : Cursor) (group : Nat) : Option (Array Nat) :=
  (c.groups.lookup group).map fun (start, stop) => text.extract start stop

/-- Matches a node at a cursor before what follows it. -/
def Node.run (text : Array Nat) : Node → Flags → Cursor → Rest → Option Cursor
  | .empty, _, c, rest => rest c
  | .code w, f, c, rest => single text (f.matchesCode w) c rest
  | .notCode w, f, c, rest => single text (fun code => !f.matchesCode w code) c rest
  | .any, f, c, rest => single text (fun code => f.dotAll || code != 10) c rest
  | .set negated items, f, c, rest =>
    single text (fun code => (items.any (f.matchesItem code)) != negated) c rest
  | .anchor a, f, c, rest => if a.holds f text c.place then rest c else none
  | .seq a b, f, c, rest => a.run text f c fun d => b.run text f d rest
  | .alt a b, f, c, rest => (a.run text f c rest).orElse fun _ => b.run text f c rest
  | .capture n b, f, c, rest =>
    b.run text f c fun d => rest { d with groups := (n, c.place, d.place) :: d.groups }
  | .scoped on off b, f, c, rest => b.run text (f.within on off) c rest
  | .atomic b, f, c, rest => (b.run text f c some).bind rest
  | .repeated greed least most b, f, c, rest =>
    let fuel := least + text.size + 3
    match greed with
    | .greedy => repeatGreedy (b.run text f) least most fuel 0 none c rest
    | .lazy => repeatLazy (b.run text f) least most fuel 0 none c rest
    | .possessive => (repeatForGood (b.run text f) least most fuel 0 c).bind rest
  | .look behind negated b, f, c, rest =>
    let back := (behind.map Width.least).getD 0
    let found := if c.place < back then none
      else b.run text f { c with place := c.place - back } some
    match found, negated with
    | some d, false => rest { d with place := c.place }
    | none, true => rest c
    | _, _ => none
  | .backref g, f, c, rest =>
    match captured? text c g with
    | none => none
    | some part =>
      let here := text.extract c.place (c.place + part.size)
      let fold (code : Nat) : Nat := if f.ignoreCase then f.lowercase code else code
      if here.map fold == part.map fold then rest { c with place := c.place + part.size } else none
  | .cond g yes no, f, c, rest =>
    if (c.groups.lookup g).isSome then yes.run text f c rest else no.run text f c rest

/-- Where the pattern is found first in a text: the places of its start and its end. -/
def search? (p : Pattern) (text : String) : Option (Nat × Nat) :=
  let codes := (text.toList.map Char.toNat).toArray
  (List.range (codes.size + 1)).findSome? fun start =>
    (p.node.run codes p.flags ⟨start, []⟩ some).map fun c => (start, c.place)

/-- Whether the pattern is found in a text. -/
def isFoundIn (p : Pattern) (text : String) : Bool := (p.search? text).isSome

end VoucherDesk.Pattern
