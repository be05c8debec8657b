import VoucherDesk.Pattern.Error

/-!
# Patterns as trees

A pattern is a tree of single characters, anchors, groups, alternatives and repetitions.
Flags change how a part of the tree is read; a group may switch flags on and off for what
it holds. A pattern has a least and a greatest width, which are capped.
-/

namespace VoucherDesk.Pattern

/-- A set of flags. -/
structure Flags where
  ignoreCase : Bool := false
  multiLine : Bool := false
  dotAll : Bool := false
  verbose : Bool := false
  ascii : Bool := false
  unicode : Bool := false
  template : Bool := false
  deriving DecidableEq, Repr

namespace Flags

/-- The flags of either set. -/
def or (a b : Flags) : Flags :=
  ⟨a.ignoreCase || b.ignoreCase, a.multiLine || b.multiLine, a.dotAll || b.dotAll,
    a.verbose || b.verbose, a.ascii || b.ascii, a.unicode || b.unicode, a.template || b.template⟩

/-- The flags of the first set that are not in the second. -/
def minus (a b : Flags) : Flags :=
  ⟨a.ignoreCase && !b.ignoreCase, a.multiLine && !b.multiLine, a.dotAll && !b.dotAll,
    a.verbose && !b.verbose, a.ascii && !b.ascii, a.unicode && !b.unicode,
    a.template && !b.template⟩

/-- Whether two sets share a flag. -/
def meets (a b : Flags) : Bool := a.minus b != a

/-- The flags that choose an alphabet. -/
def alphabets : Flags := { ascii := true, unicode := true }

/-- The flags inside a group that switches some on and some off; an alphabet that is switched on
replaces the one before. -/
def within (flags on off : Flags) : Flags :=
  let base := if on.meets alphabets then flags.minus alphabets else flags
  (base.or on).minus off

end Flags

/-- Classes of characters that an escape names. -/
inductive Category where
  | digit
  | notDigit
  | space
  | notSpace
  | word
  | notWord
  deriving DecidableEq, Repr

/-- What a character set lists. -/
inductive SetItem where
  | code (c : Nat)
  | range (low high : Nat)
  | category (c : Category)
  deriving DecidableEq, Repr

/-- Places between characters. -/
inductive Anchor where
  | lineStart
  | lineEnd
  | textStart
  | textEnd
  | wordEdge
  | notWordEdge
  deriving DecidableEq, Repr

/-- How a repetition chooses its count: as many as possible, as few as possible, or as many as
possible for good. -/
inductive Greed where
  | greedy
  | lazy
  | possessive
  deriving DecidableEq, Repr

/-- The least and the greatest number of characters that a pattern takes. -/
structure Width where
  least : Nat
  greatest : Nat
  deriving DecidableEq, Repr

/-- The cap on widths. -/
def Width.cap : Nat := 18446744073709551616

/-- A width with both bounds capped. -/
def Width.capped (least greatest : Nat) : Width :=
  ⟨min least Width.cap, min greatest Width.cap⟩

/-- A pattern. -/
inductive Node where
  | empty
  | code (c : Nat)
  | notCode (c : Nat)
  | any
  | set (negated : Bool) (items : List SetItem)
  | anchor (a : Anchor)
  | seq (first rest : Node)
  | alt (first rest : Node)
  | capture (group : Nat) (body : Node)
  | scoped (on off : Flags) (body : Node)
  | atomic (body : Node)
  | repeated (greed : Greed) (least : Nat) (most : Option Nat) (body : Node)
  | look (behind : Option Width) (negated : Bool) (body : Node)
  | backref (group : Nat)
  | cond (group : Nat) (yes no : Node)
  deriving Repr

namespace Node

/-- The nodes one after another. -/
def ofList : List Node → Node
  | [] => .empty
  | [n] => n
  | n :: rest => .seq n (ofList rest)

/-- Whether the node is a place between characters. -/
def isAnchor : Node → Bool
  | .anchor _ => true
  | _ => false

/-- Whether the node is a repetition. -/
def isRepeated : Node → Bool
  | .repeated .. => true
  | _ => false

/-- The width of a node, given the widths of the groups before it. -/
def width (groups : Nat → Width) : Node → Width
  | .empty | .anchor _ | .look .. => ⟨0, 0⟩
  | .code _ | .notCode _ | .any | .set .. => ⟨1, 1⟩
  | .seq a b =>
    let v := a.width groups
    let w := b.width groups
    Width.capped (v.least + w.least) (v.greatest + w.greatest)
  | .alt a b =>
    let v := a.width groups
    let w := b.width groups
    ⟨min v.least w.least, max v.greatest w.greatest⟩
  | .capture _ b | .scoped _ _ b | .atomic b => b.width groups
  | .repeated _ least most b =>
    let w := b.width groups
    Width.capped (w.least * least)
      (match most with
        | some m => w.greatest * m
        | none => if w.greatest = 0 then 0 else Width.cap)
  | .backref g => groups g
  | .cond _ yes no =>
    let v := yes.width groups
    let w := no.width groups
    ⟨min v.least w.least, max v.greatest w.greatest⟩

/-- The greatest width that can be looked back over. -/
def maxLookbehind : Nat := 4294967295

/-- The cause for which a pattern of correct form cannot be used, if there is one: it looks back
over a width that is too great or not fixed, or repeats under the flag that forbids it. -/
def defect? (template : Bool) : Node → Option Cause
  | .seq a b | .alt a b | .cond _ a b => (a.defect? template).or (b.defect? template)
  | .capture _ b | .scoped _ _ b | .atomic b => b.defect? template
  | .repeated greed _ _ b =>
    if template then some (.templateRepeat (greedName greed)) else b.defect? template
  | .look (some w) _ b =>
    if maxLookbehind < w.least then some .lookbehindTooLong
    else if w.least ≠ w.greatest then some .lookbehindWidth
    else b.defect? template
  | .look none _ b => b.defect? template
  | _ => none
where
  /-- The name of a repetition. -/
  greedName : Greed → String
    | .greedy => "MAX_REPEAT"
    | .lazy => "MIN_REPEAT"
    | .possessive => "POSSESSIVE_REPEAT"

end Node

end VoucherDesk.Pattern
