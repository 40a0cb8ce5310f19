import FormEngine.Pattern.Basic
import FormEngine.Pattern.Bytes
import Std.Data.HashMap

/-!
The size of the programs for a pattern. A program reads bytes and consists of steps; there is one
program that reads a text forwards and one that reads it backwards. Counted repetitions are written
out, and within a class beyond ASCII steps that go on alike are shared. What has been laid out
lately is remembered in a table of fixed size, in which a newer step takes the place of an older
one; so a step may be laid out again, and the size of a class depends on where its steps begin.
-/

namespace FormEngine.Pattern

inductive Direction where
  | forwards
  | backwards

/-- Steps laid out so far, and the bytes that they need beyond their own. -/
structure Layout where
  steps : Nat
  extra : Nat

namespace Layout

def stepSize : Nat := 32

/-- Of each further way that a step on bytes can go. -/
def transitionSize : Nat := 8

/-- Of each way that a choice between steps can go. -/
def branchSize : Nat := 4

def sizeLimit : Nat := 10 * 1024 * 1024

def size (layout : Layout) : Nat := layout.steps * stepSize + layout.extra

def fits (layout : Layout) : Bool := layout.size ≤ sizeLimit

def add (layout : Layout) (steps extra : Nat) : Layout :=
  ⟨layout.steps + steps, layout.extra + extra⟩

end Layout

section Slots

/-- The slot of a table for a list of numbers. -/
def slotOf (slots : UInt64) (numbers : List Nat) : UInt64 :=
  (numbers.foldl (fun hash number => (hash ^^^ number.toUInt64) * 1099511628211)
    14695981039346656037) % slots

end Slots

section Prefixes

mutual
/-- Sequences of byte spans by what they begin with. -/
inductive ByteTree where
  | done
  | node (branches : ByteBranches)

inductive ByteBranches where
  | none
  | more (span : ByteSpan) (inner : ByteTree) (rest : ByteBranches)
end

/-- Adjacent sequences that begin alike, with what follows their beginning. -/
def groupByFirst : List (List ByteSpan) → List (ByteSpan × List (List ByteSpan))
  | [] => []
  | [] :: rest => groupByFirst rest
  | (first :: tail) :: rest =>
      match groupByFirst rest with
      | (span, tails) :: groups =>
          if span = first then (span, tail :: tails) :: groups
          else (first, [tail]) :: (span, tails) :: groups
      | [] => [(first, [tail])]

/-- The sequences of a class are of four bytes at most. -/
def ByteTree.ofSequences (depth : Nat) (sequences : List (List ByteSpan)) : ByteTree :=
  match depth with
  | 0 => .done
  | depth + 1 =>
      match groupByFirst sequences with
      | [] => .done
      | groups =>
          .node (groups.foldr (fun group rest => .more group.1 (ofSequences depth group.2) rest)
            .none)

/-- A step on a byte: from which to which byte, and where it goes on. -/
structure Transition where
  first : Nat
  last : Nat
  target : Nat
  deriving DecidableEq

def Transition.numbers (transition : Transition) : List Nat :=
  [transition.first, transition.last, transition.target]

structure Shared where
  layout : Layout
  known : Std.HashMap UInt64 (List Transition × Nat)

def Shared.find? (shared : Shared) (slot : UInt64) (transitions : List Transition) : Option Nat :=
  match shared.known[slot]? with
  | some (known, step) => if known = transitions then some step else none
  | none => none

/-- The step for some transitions, an earlier one where the table still holds it. -/
def Shared.step (shared : Shared) (transitions : List Transition) : Nat × Shared :=
  let slot := slotOf 10000 (transitions.flatMap Transition.numbers)
  match shared.find? slot transitions with
  | some step => (step, shared)
  | none =>
      let step := shared.layout.steps
      (step, ⟨shared.layout.add 1 (Layout.transitionSize * transitions.length),
        shared.known.insert slot (transitions, step)⟩)

mutual
/-- Lays out the steps of a tree behind those they lead to, and gives the one it begins with. -/
def ByteTree.lay (target : Nat) : ByteTree → Shared → Nat × Shared
  | .done, shared => (target, shared)
  | .node branches, shared =>
      let (transitions, shared) := branches.lay target shared
      shared.step transitions

def ByteBranches.lay (target : Nat) : ByteBranches → Shared → List Transition × Shared
  | .none, shared => ([], shared)
  | .more span inner rest, shared =>
      let (step, shared) := inner.lay target shared
      let (transitions, shared) := rest.lay target shared
      (⟨span.first, span.last, step⟩ :: transitions, shared)
end

/-- The step that all sequences lead to comes first. -/
def layTree (tree : ByteTree) (layout : Layout) : Layout :=
  (tree.lay layout.steps ⟨layout.add 1 0, ∅⟩).2.layout

end Prefixes

section Suffixes

structure Linked where
  layout : Layout
  known : Std.HashMap UInt64 (Transition × Nat)

/-- A step that goes on to the one for the preceding byte. -/
def Linked.step (linked : Linked) (transition : Transition) : Nat × Linked :=
  let slot := slotOf 1000 [transition.target, transition.first, transition.last]
  let fresh : Nat × Linked :=
    (linked.layout.steps,
      ⟨linked.layout.add 1 0, linked.known.insert slot (transition, linked.layout.steps)⟩)
  match linked.known[slot]? with
  | some (known, step) => if known = transition then (step, linked) else fresh
  | none => fresh

def Linked.sequence (linked : Linked) (target : Nat) : List ByteSpan → Linked
  | [] => { linked with layout := linked.layout.add 0 Layout.branchSize }
  | span :: rest =>
      let (step, linked) := linked.step ⟨span.first, span.last, target⟩
      linked.sequence step rest

/-- Read backwards a sequence ends with its first byte: one step chooses among the sequences, one is
where all of them end. -/
def laySequences (sequences : List (List ByteSpan)) (layout : Layout) : Layout :=
  let target := layout.steps + 1
  (sequences.foldl (fun (linked : Linked) spans => linked.sequence target spans)
    ⟨layout.add 2 0, ∅⟩).layout

end Suffixes

section Literals

/-- Texts that end at once close a phase: later texts do not share steps with those before. Only the
first of them counts as long as no other text has come. -/
def phases (texts : List (List Nat)) : List (List (List Nat)) :=
  let ended := texts.takeWhile List.isEmpty
  (ended.take 1 ++ texts.drop ended.length).splitOnP List.isEmpty

def firstBytes (texts : List (List Nat)) : List Nat := (texts.filterMap List.head?).eraseDups

def continuations (texts : List (List Nat)) (byte : Nat) : List (List Nat) :=
  (texts.filter fun text => text.head? == some byte).map List.tail

/-- The texts of one phase share a step, one transition for each of their first bytes. -/
def layPhase (texts : List (List Nat)) (layout : Layout) : Layout :=
  match (firstBytes texts).length with
  | 0 => layout
  | 1 => layout.add 1 0
  | several => layout.add 1 (Layout.transitionSize * several)

/-- A choice among texts, all of them at most `depth` bytes long: the steps of their phases, and a
step that chooses among these and the end of the texts between them. -/
def layTexts (depth : Nat) (texts : List (List Nat)) (layout : Layout) : Layout :=
  match depth with
  | 0 => layout
  | depth + 1 =>
      if texts.all List.isEmpty then layout
      else
        let phases := phases texts
        let inner := phases.foldl
          (fun layout phase => (firstBytes phase).foldl
            (fun layout byte => layTexts depth (continuations phase byte) layout)
            (layPhase phase layout)) layout
        let filled := (phases.filter fun phase => !phase.isEmpty).length
        inner.add 1 (Layout.branchSize * (filled + phases.length - 1))

end Literals

section Plans

/-- What is laid out for a pattern, in its order. -/
inductive Plan where
  | steps (count extra : Nat)
  | tree (tree : ByteTree)
  | sequences (sequences : List (List ByteSpan))
  | texts (depth : Nat) (texts : List (List Nat))
  | next (first second : Plan)
  | copies (count : Nat) (inner : Plan)

def Plan.all (plans : List Plan) : Plan := plans.foldr Plan.next (.steps 0 0)

/-- A choice of two ways, one of which is the plan that follows. -/
def Plan.choiceStep : Plan := .steps 1 (2 * Layout.branchSize)

def classPlan (direction : Direction) (charClass : CharClass) : Plan :=
  if charClass.isAscii then .steps 2 (Layout.transitionSize * charClass.spans.length)
  else
    match direction with
    | .forwards => .tree (.ofSequences 5 charClass.sequences)
    | .backwards => .sequences charClass.sequences

def exactPlan (count : Nat) (inner : Plan) : Plan :=
  if count = 0 then .steps 1 0 else .copies count inner

/-- An unbounded repetition goes back to its last copy. One of something that may be empty is left
by a step of its own. -/
def unboundedPlan (least : Nat) (needsText : Bool) (inner : Plan) : Plan :=
  match least with
  | 0 =>
      if needsText then .next .choiceStep inner
      else .all [inner, .choiceStep, .choiceStep, .steps 1 0]
  | least + 1 => .all [.copies least inner, inner, .choiceStep]

def repeatedPlan (least : Nat) (greatest : Option Nat) (needsText : Bool) (inner : Plan) : Plan :=
  match greatest with
  | none => unboundedPlan least needsText inner
  | some greatest =>
      if least = greatest then exactPlan least inner
      else if least = 0 ∧ greatest = 1 then .all [.choiceStep, inner, .steps 1 0]
      else
        .all [exactPlan least inner, .steps 1 0,
          .copies (greatest - least) (.next .choiceStep inner)]

def literalText? : Pattern → Option (List Char)
  | .literal text => some text
  | _ => none

def textsPlan (direction : Direction) (texts : List (List Char)) : Plan :=
  let bytes := texts.map utf8Text
  let read :=
    match direction with
    | .forwards => bytes
    | .backwards => bytes.map List.reverse
  .next (.steps 1 0) (.texts ((bytes.map List.length).foldl max 0 + 1) read)

mutual
/-- Groups are recorded by the program that reads forwards. -/
def plan (direction : Direction) : Pattern → Plan
  | .empty => .steps 1 0
  | .literal text => .steps (utf8Text text).length 0
  | .one charClass => classPlan direction charClass
  | .assertion _ => .steps 1 0
  | .repeated inner least greatest _ =>
      repeatedPlan least greatest inner.needsText (plan direction inner)
  | .capture _ inner =>
      match direction with
      | .forwards => .all [.steps 1 0, plan direction inner, .steps 1 0]
      | .backwards => plan direction inner
  | .seq parts =>
      match direction with
      | .forwards => .all (plans direction parts)
      | .backwards => .all (plans direction parts).reverse
  | .alt choices =>
      match choices.mapM literalText? with
      | some texts => textsPlan direction texts
      | none =>
          match plans direction choices with
          | first :: second :: rest =>
              .all ([first, second, .steps 2 (2 * Layout.branchSize)] ++
                rest.map fun choice => .next choice (.steps 0 Layout.branchSize))
          | other => .all other

def plans (direction : Direction) : List Pattern → List Plan
  | [] => []
  | first :: rest => plan direction first :: plans direction rest
end

/-- A match may begin anywhere unless the pattern says where; the whole match is recorded like a
group. -/
def programPlan (direction : Direction) (pattern : Pattern) : Plan :=
  let bound : Bool :=
    match direction with
    | .forwards => pattern.startsAtStart
    | .backwards => pattern.endsAtEnd
  let search : Plan :=
    if bound then .steps 1 0
    else .next .choiceStep (.steps 2 Layout.transitionSize)
  .all [search, plan direction (.capture 0 pattern), .steps 1 0]

end Plans

section Sizes

/-- Nothing is laid out any more once a layout is too large. -/
def layCopies (lay : Layout → Layout) : Nat → Layout → Layout
  | 0, layout => layout
  | count + 1, layout =>
      if layout.fits then layCopies lay count (lay layout) else layout

def Plan.lay : Plan → Layout → Layout
  | .steps count extra, layout => layout.add count extra
  | .tree found, layout => layTree found layout
  | .sequences found, layout => laySequences found layout
  | .texts depth found, layout => layTexts depth found layout
  | .next first second, layout =>
      let layout := first.lay layout
      if layout.fits then second.lay layout else layout
  | .copies count inner, layout => layCopies inner.lay count layout

def layoutOf (direction : Direction) (pattern : Pattern) : Layout :=
  (programPlan direction pattern).lay ⟨0, 0⟩

/-- Both programs stay within the limit. -/
def hasPrograms (pattern : Pattern) : Bool :=
  (layoutOf .forwards pattern).fits && (layoutOf .backwards pattern).fits

end Sizes

end FormEngine.Pattern
