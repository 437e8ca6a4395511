import Descent.Pattern.Expr

/-!
# Matching

An expression is matched against the text from a place on, all its possibilities side by side. What
is left to be matched in one of them is a stack of expressions, and the possibilities are kept in
the order of preference.

Between two characters each stack is opened (`Expr.openStack`) until it begins with a leaf, or until
nothing is left of it, which means that the text read so far is matched. A stack that has been
opened at the same place already is not opened again: the earlier possibility is preferred, and
whatever can follow is the same. This is also what ends a turn of a loop that reads nothing.

Then each stack reads the next character with its leaf or is given up. As soon as a possibility has
matched, those behind it are given up too, since none of them is preferred. The length of the last
text that was matched before all possibilities were used up is the length of the preferred match.
-/

namespace Descent.Pattern

open Text (Place)

/-- The sets of characters at the sites of an expression. -/
abbrev Sites := Array CharSet

/-- Is the character in the set at a site? -/
def Sites.reads (sites : Sites) (site : Nat) (c : Char) : Bool :=
  sites[site]?.any (·.contains c)

/-- What is left to be matched: one expression after another. -/
abbrev Stack := List Expr

/-- The stacks that have been opened at a place. -/
structure Opened where
  /-- all stacks that were met, the last first -/
  seen : List Stack
  /-- the stacks that begin with a leaf or are empty, the least preferred first -/
  ready : List Stack

namespace Opened

/-- Nothing has been opened. -/
def none : Opened := ⟨[], []⟩

/-- Go on with a stack that has not been met before. -/
def meet (s : Stack) (go : Opened → Opened) (o : Opened) : Opened :=
  if o.seen.contains s then o else go ⟨s :: o.seen, o.ready⟩

/-- Note a stack that is ready to read. -/
def note (s : Stack) (o : Opened) : Opened := ⟨o.seen, s :: o.ready⟩

end Opened

/-- Open `sub` again and again. `enter` opens it over a stack. Under it lies the same loop, which
has been opened at this place then. -/
def openStar (greedy : Bool) (sub : Expr) (enter : Stack → (Opened → Opened) → Opened → Opened)
    (below : Stack) (after : Opened → Opened) : Opened → Opened :=
  let again := enter (.star greedy sub :: below) id
  Opened.meet (.star greedy sub :: below) fun o =>
    if greedy then after (again o) else again (after o)

/-- Open `sub` a number of times. `enter` opens it over a stack. -/
def openExactly (sub : Expr) (enter : Stack → (Opened → Opened) → Opened → Opened) (below : Stack)
    (after : Opened → Opened) : Nat → Opened → Opened
  | 0 => Opened.meet (.exactly 0 sub :: below) after
  | n + 1 =>
    Opened.meet (.exactly (n + 1) sub :: below)
      (enter (.exactly n sub :: below) (openExactly sub enter below after n))

/-- Open `sub` up to a number of times. `enter` opens it over a stack. -/
def openUpTo (greedy : Bool) (sub : Expr) (enter : Stack → (Opened → Opened) → Opened → Opened)
    (below : Stack) (after : Opened → Opened) : Nat → Opened → Opened
  | 0 => Opened.meet (.upTo greedy 0 sub :: below) after
  | n + 1 =>
    let again := enter (.upTo greedy n sub :: below) (openUpTo greedy sub enter below after n)
    Opened.meet (.upTo greedy (n + 1) sub :: below) fun o =>
      if greedy then after (again o) else again (after o)

/-- Open an expression at a place. `below` is the stack under the expression, and `after` opens
it. -/
def Expr.openAt (p : Place) : Expr → (below : Stack) → (after : Opened → Opened) → Opened → Opened
  | .empty, below, after => Opened.meet (.empty :: below) after
  | .leaf site, below, _ => Opened.meet (.leaf site :: below) (Opened.note (.leaf site :: below))
  | .look l, below, after =>
    Opened.meet (.look l :: below) fun o => if l.holds p then after o else o
  | .seq a b, below, after => a.openAt p (b :: below) (b.openAt p below after)
  | .alt a b, below, after =>
    Opened.meet (.alt a b :: below) fun o => b.openAt p below after (a.openAt p below after o)
  | .star greedy sub, below, after =>
    openStar greedy sub (fun below after => sub.openAt p below after) below after
  | .plus greedy sub, below, after =>
    Opened.meet (.plus greedy sub :: below)
      (sub.openAt p (.star greedy sub :: below)
        (openStar greedy sub (fun below after => sub.openAt p below after) below after))
  | .exactly n sub, below, after =>
    openExactly sub (fun below after => sub.openAt p below after) below after n
  | .upTo greedy n sub, below, after =>
    openUpTo greedy sub (fun below after => sub.openAt p below after) below after n

/-- Open a stack at a place. -/
def Expr.openStack (p : Place) : Stack → Opened → Opened
  | [] => Opened.meet [] (Opened.note [])
  | e :: below => e.openAt p below (openStack p below)

/-- The stacks that are ready at a place, the most preferred first. -/
def ready (p : Place) (front : List Stack) : List Stack :=
  (front.foldl (fun o s => Expr.openStack p s o) Opened.none).ready.reverse

/-- What is left of a stack when its leaf has read a character. -/
def Stack.read? (sites : Sites) (c : Char) : Stack → Option Stack
  | .leaf site :: below => if sites.reads site c then some below else none
  | _ => none

/-- The length of the preferred match. The stacks in `front` are ready at the place before the rest
of the text, `n` characters have been read, and `best` is the length of the last match. -/
def matchFrom (sites : Sites) (front : List Stack) (n : Nat) (best : Option Nat) :
    List Char → Option Nat
  | [] => if front.contains [] then some n else best
  | c :: rest =>
    let best := if front.contains [] then some n else best
    match (front.takeWhile (!·.isEmpty)).filterMap (Stack.read? sites c) with
    | [] => best
    | next => matchFrom sites (ready ⟨some c, rest⟩ next) (n + 1) best rest

/-- The length, in characters, of the preferred match at a place. -/
def Expr.preferred? (sites : Sites) (e : Expr) (p : Place) : Option Nat :=
  matchFrom sites (ready p [[e]]) 0 none p.rest

end Descent.Pattern
