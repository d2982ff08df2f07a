import Winnow.Pattern.Syntax

/-!
How many characters a pattern can take: the least and the greatest number. A look-behind steps back by the
width of its body, so the two have to agree there.
-/
set_option autoImplicit false

namespace Winnow.Pattern

def widthLimit : Nat := Nat.pow 2 64

def repeatLimit : Nat := 4294967295

structure Width where
  low : Nat
  high : Nat
  deriving DecidableEq, Repr

def Width.clamp (w : Width) : Width := ⟨min w.low widthLimit, min w.high widthLimit⟩

def Width.join (v w : Width) : Width := ⟨min v.low w.low, max v.high w.high⟩

def Width.repeated (w : Width) (lo : Nat) (hi : Option Nat) (before : Width) : Width :=
  ⟨before.low + w.low * lo,
    match hi with
    | some n => before.high + w.high * n
    | none => if w.high == 0 then before.high else widthLimit⟩

mutual

/-- The width of a node added to `before`; `groups` holds the widths of the groups closed so far. -/
def Node.addWidth (groups : List (Option Width)) (before : Width) : Node → Width
  | .char _ | .notChar _ | .any | .set .. => ⟨before.low + 1, before.high + 1⟩
  | .anchor _ | .look .. => before
  | .repeat_ _ lo hi body => (addWidths groups ⟨0, 0⟩ body).clamp.repeated lo hi before
  | .group _ _ _ body | .atomic body =>
    let w := (addWidths groups ⟨0, 0⟩ body).clamp
    ⟨before.low + w.low, before.high + w.high⟩
  | .alternation branches =>
    let w := joinWidths groups ⟨widthLimit, 0⟩ branches
    ⟨before.low + w.low, before.high + w.high⟩
  | .backReference n =>
    let w := ((groups[n]?).join).getD ⟨0, 0⟩
    ⟨before.low + w.low, before.high + w.high⟩
  | .conditional _ yes no =>
    let w := (addWidths groups ⟨0, 0⟩ yes).clamp
    let w := match no with
      | some branch => w.join (addWidths groups ⟨0, 0⟩ branch).clamp
      | none => ⟨0, w.high⟩
    ⟨before.low + w.low, before.high + w.high⟩

def addWidths (groups : List (Option Width)) (before : Width) : List Node → Width
  | [] => before
  | node :: rest => addWidths groups (node.addWidth groups before) rest

def joinWidths (groups : List (Option Width)) (acc : Width) : List (List Node) → Width
  | [] => acc
  | branch :: rest => joinWidths groups (acc.join (addWidths groups ⟨0, 0⟩ branch).clamp) rest

end

def width (groups : List (Option Width)) (nodes : List Node) : Width :=
  (addWidths groups ⟨0, 0⟩ nodes).clamp

end Winnow.Pattern
