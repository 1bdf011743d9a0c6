import Stencil.Proofs.Template.Markless
import Stencil.Proofs.Template.Tokens
import Stencil.Proofs.Template.Writing
import Stencil.Proofs.Text.Ends
import Stencil.Template.Node

/-!
Templates as they are printed.

A template is printed as the source that a person would write for it: braces in text with a backslash before them,
literals in double quotes, calls in parentheses, blocks with all their tags. Not every tree of nodes can be printed
so. Some trees come from no source, and some words would mean something else to the layers of the parser; those that
can are the printable ones. What is said here about calls is what the layers need to know about them: a call in print
is one that reads as it should, the search for the end of its tag passes over it, and its ends stay as they are.
-/

namespace Stencil.Template

open Stencil.Text

/-! ## 1. Printing -/

mutual

/-- An argument in print. -/
def Argument.print : Argument → List Char
  | .bare word => word.toList
  | .quoted s => quoteLiteral '"' s.toList
  | .sub head positional named =>
    '(' :: (head.print ++ printPositional positional ++ printNamed named) ++ [')']
  | .unbalanced => []

/-- Positional arguments in print, each after a blank. -/
def printPositional : List Argument → List Char
  | [] => []
  | a :: as => ' ' :: a.print ++ printPositional as

/-- Named arguments in print, each after a blank. -/
def printNamed : List (String × Argument) → List Char
  | [] => []
  | (key, a) :: as => ' ' :: key.toList ++ '=' :: a.print ++ printNamed as

end

/-- A call in print. -/
def Call.print (call : Call) : List Char :=
  call.head.print ++ printPositional call.positional ++ printNamed call.named

/-- A tag with its braces. -/
def printTag (content : List Char) : List Char := '{' :: '{' :: content ++ ['}', '}']

mutual

/-- A node in print. -/
def Node.print : Node → List Char
  | .text s => escapeText s.toList
  | .expression call _ => printTag call.print
  | .block call body inverse _ _ =>
    printTag ('#' :: call.print) ++ printNodes body ++ printInverse inverse ++
      printTag ('/' :: (call.name?.getD "").toList)
  | .invalid _ => []

/-- Nodes in print. -/
def printNodes : List Node → List Char
  | [] => []
  | node :: nodes => node.print ++ printNodes nodes

/-- The second branch of a block in print. -/
def printInverse : Option (List Node) → List Char
  | none => []
  | some nodes => printTag ['e', 'l', 's', 'e'] ++ printNodes nodes

end

example :
    String.ofList (printNodes [.text "a \x7b\x7b\x7b b", .block ⟨.bare "if", [.quoted "\\ \"\x7d\x7d"], []⟩
      [.expression ⟨.bare "x", [.sub (.bare "y") [] [("k", .bare "1")]], []⟩ default] (some []) default default]) =
      "a \\\x7b\x7b\x7b b\x7b\x7b#if \"\\\\ \\\"\x7d\x7d\"\x7d\x7d\x7b\x7bx (y k=1)\x7d\x7d\x7b\x7belse\x7d\x7d\x7b\x7b/if\x7d\x7d" := by
  decide +kernel

/-! ## 2. What can be printed -/

/-- A word that means nothing to any of the layers: no blanks, quotes, parentheses, equals signs and braces. -/
structure PlainWord (word : String) : Prop where
  nonempty : word.toList ≠ []
  plain : ∀ c ∈ word.toList, isWordChar c = true ∧ isQuote c = false ∧ c ≠ '{' ∧ c ≠ '}'

/-- A head in print is a word. -/
def Argument.PlainHead : Argument → Prop
  | .bare word => PlainWord word
  | _ => False

mutual

/-- An argument that can be printed. -/
def Argument.Printable : Argument → Prop
  | .bare word => PlainWord word
  | .quoted s => Markless s.toList
  | .sub head positional named => head.PlainHead ∧ PositionalPrintable positional ∧ NamedPrintable named
  | .unbalanced => False

/-- Positional arguments that can be printed. -/
def PositionalPrintable : List Argument → Prop
  | [] => True
  | a :: as => a.Printable ∧ PositionalPrintable as

/-- Named arguments that can be printed. -/
def NamedPrintable : List (String × Argument) → Prop
  | [] => True
  | (key, a) :: as => PlainWord key ∧ a.Printable ∧ NamedPrintable as

end

/-- A call that can be printed. -/
def Call.Printable (call : Call) : Prop :=
  call.head.PlainHead ∧ PositionalPrintable call.positional ∧ NamedPrintable call.named

/-- A call that as an expression does not look like another tag or a comment. -/
structure Call.Distinguished (call : Call) : Prop where
  head : ∀ name, call.name? = some name → ∀ c ∈ name.toList.head?, c ≠ '#' ∧ c ≠ '/' ∧ c ≠ '!'
  notElse : call ≠ ⟨.bare "else", [], []⟩

/-- Whether a node is text. -/
def Node.isText : Node → Bool
  | .text _ => true
  | _ => false

mutual

/-- A node that can be printed. -/
def Node.Printable : Node → Prop
  | .text s => s.toList ≠ [] ∧ ClosedText s.toList ∧ Markless s.toList
  | .expression call _ => call.Printable ∧ call.Distinguished
  | .block call body inverse _ _ => call.Printable ∧ NodesPrintable body ∧ InversePrintable inverse
  | .invalid _ => False

/-- Nodes that can be printed; texts are not next to each other. -/
def NodesPrintable : List Node → Prop
  | [] => True
  | node :: nodes =>
    node.Printable ∧ (node.isText = true → ∀ next ∈ nodes.head?, next.isText = false) ∧ NodesPrintable nodes

/-- A second branch that can be printed. -/
def InversePrintable : Option (List Node) → Prop
  | none => True
  | some nodes => NodesPrintable nodes

end

/-! What can be printed can be decided, along the same recursion. -/

instance (word : String) : Decidable (PlainWord word) :=
  decidable_of_iff
    (word.toList ≠ [] ∧ word.toList.all (fun c => isWordChar c && !isQuote c && c != '{' && c != '}') = true)
    ⟨fun h => ⟨h.1, by simpa [and_assoc] using h.2⟩, fun h => ⟨h.nonempty, by simpa [and_assoc] using h.plain⟩⟩

instance : (a : Argument) → Decidable a.PlainHead
  | .bare word => inferInstanceAs (Decidable (PlainWord word))
  | .quoted _ | .sub _ _ _ | .unbalanced => .isFalse id

mutual

/-- Whether an argument can be printed. -/
def Argument.decidePrintable : (a : Argument) → Decidable a.Printable
  | .bare word => inferInstanceAs (Decidable (PlainWord word))
  | .quoted s => inferInstanceAs (Decidable (Markless s.toList))
  | .sub head positional named =>
    have := decidePositionalPrintable positional
    have := decideNamedPrintable named
    inferInstanceAs (Decidable (head.PlainHead ∧ PositionalPrintable positional ∧ NamedPrintable named))
  | .unbalanced => .isFalse id

/-- Whether positional arguments can be printed. -/
def decidePositionalPrintable : (as : List Argument) → Decidable (PositionalPrintable as)
  | [] => .isTrue trivial
  | a :: as =>
    have := a.decidePrintable
    have := decidePositionalPrintable as
    inferInstanceAs (Decidable (a.Printable ∧ PositionalPrintable as))

/-- Whether named arguments can be printed. -/
def decideNamedPrintable : (as : List (String × Argument)) → Decidable (NamedPrintable as)
  | [] => .isTrue trivial
  | (key, a) :: as =>
    have := a.decidePrintable
    have := decideNamedPrintable as
    inferInstanceAs (Decidable (PlainWord key ∧ a.Printable ∧ NamedPrintable as))

end

instance (as : List Argument) : Decidable (PositionalPrintable as) := decidePositionalPrintable as

instance (as : List (String × Argument)) : Decidable (NamedPrintable as) := decideNamedPrintable as

instance (call : Call) : Decidable call.Printable := inferInstanceAs (Decidable (_ ∧ _ ∧ _))

theorem Call.eq_else_iff (call : Call) :
    call = ⟨.bare "else", [], []⟩ ↔ call.name? = some "else" ∧ call.positional = [] ∧ call.named = [] := by
  constructor
  · rintro rfl
    exact ⟨rfl, rfl, rfl⟩
  · obtain ⟨head, positional, named⟩ := call
    rintro ⟨hname, rfl, rfl⟩
    cases head with
    | bare word => rw [Option.some.inj hname]
    | _ => cases hname

/-- A tag with a content of this start is no expression. -/
def startsTag (c : Char) : Bool := c == '#' || c == '/' || c == '!'

instance (call : Call) : Decidable call.Distinguished :=
  decidable_of_iff
    (call.name?.all (fun name => name.toList.head?.all fun c => !startsTag c) = true ∧
      ¬ (call.name? = some "else" ∧ call.positional = [] ∧ call.named = []))
    ⟨fun h => ⟨by simpa [startsTag, and_assoc, Option.all_eq_true] using h.1,
        fun heq => h.2 (call.eq_else_iff.mp heq)⟩,
      fun h => ⟨by simpa [startsTag, and_assoc, Option.all_eq_true] using h.head,
        fun heq => h.notElse (call.eq_else_iff.mpr heq)⟩⟩

mutual

/-- Whether a node can be printed. -/
def Node.decidePrintable : (node : Node) → Decidable node.Printable
  | .text s => inferInstanceAs (Decidable (s.toList ≠ [] ∧ ClosedText s.toList ∧ Markless s.toList))
  | .expression call _ => inferInstanceAs (Decidable (call.Printable ∧ call.Distinguished))
  | .block call body inverse _ _ =>
    have := decideNodesPrintable body
    have := decideInversePrintable inverse
    inferInstanceAs (Decidable (call.Printable ∧ NodesPrintable body ∧ InversePrintable inverse))
  | .invalid _ => .isFalse id

/-- Whether nodes can be printed. -/
def decideNodesPrintable : (nodes : List Node) → Decidable (NodesPrintable nodes)
  | [] => .isTrue trivial
  | node :: nodes =>
    have := node.decidePrintable
    have := decideNodesPrintable nodes
    have : Decidable (∀ next ∈ nodes.head?, next.isText = false) := Option.decidableForallMem _
    inferInstanceAs (Decidable
      (node.Printable ∧ (node.isText = true → ∀ next ∈ nodes.head?, next.isText = false) ∧ NodesPrintable nodes))

/-- Whether a second branch can be printed. -/
def decideInversePrintable : (inverse : Option (List Node)) → Decidable (InversePrintable inverse)
  | none => .isTrue trivial
  | some nodes => decideNodesPrintable nodes

end

instance (nodes : List Node) : Decidable (NodesPrintable nodes) := decideNodesPrintable nodes

/-! ## 3. Calls in print -/

theorem PlainWord.isWord {word : String} (h : PlainWord word) : IsWord word.toList where
  nonempty := h.nonempty
  plain c hc := (h.plain c hc).1
  unquoted c hc := (h.plain c (List.mem_of_mem_head? hc)).2.1

theorem Argument.PlainHead.printable {a : Argument} (h : a.PlainHead) : a.Printable := by
  cases a with
  | bare word => exact h
  | _ => cases h

mutual

theorem Argument.Printable.writtenAs : ∀ {a : Argument}, a.Printable → a.WrittenAs a.print
  | .bare _, h => ⟨h.isWord, rfl⟩
  | .quoted _, _ => ⟨'"', rfl, rfl⟩
  | .sub _ _ _, ⟨hhead, hpositional, hnamed⟩ =>
    ⟨_, _, _, rfl, hhead.printable.writtenAs, hpositional.writtenAs, hnamed.writtenAs⟩

theorem PositionalPrintable.writtenAs : ∀ {as : List Argument}, PositionalPrintable as →
    positionalWrittenAs as (printPositional as)
  | [], _ => rfl
  | _ :: _, ⟨ha, has⟩ => ⟨_, _, rfl, ha.writtenAs, has.writtenAs⟩

theorem NamedPrintable.writtenAs : ∀ {as : List (String × Argument)}, NamedPrintable as →
    namedWrittenAs as (printNamed as)
  | [], _ => rfl
  | (_, _) :: _, ⟨hkey, ha, has⟩ => ⟨_, _, rfl, hkey.isWord, ha.writtenAs, has.writtenAs⟩

end

theorem Call.Printable.writtenAs {call : Call} (h : call.Printable) : call.WrittenAs call.print :=
  ⟨_, _, _, rfl, h.1.printable.writtenAs, h.2.1.writtenAs, h.2.2.writtenAs⟩

/-! ## 4. The content of tags -/

/-- Content in print: the search for the end of a tag passes over it, and it is a piece of a source. -/
structure Content (cs : List Char) : Prop where
  passedOver : PassedOver cs
  piece : Piece cs

theorem Content.append {cs ds : List Char} (hcs : Content cs) (hds : Content ds) : Content (cs ++ ds) :=
  ⟨hcs.passedOver.append hds.passedOver, hcs.piece.append hds.piece⟩

theorem content_of_forall {cs : List Char} (h : ∀ c ∈ cs, (c ≠ '"' ∧ c ≠ '\'') ∧ c ≠ '{' ∧ c ≠ '}') : Content cs :=
  ⟨passedOver_of_forall h, piece_of_forall fun c hc => (h c hc).2.1⟩

theorem content_nil : Content [] := content_of_forall (by simp)

theorem Content.cons {c : Char} {cs : List Char} (hc : (c ≠ '"' ∧ c ≠ '\'') ∧ c ≠ '{' ∧ c ≠ '}') (h : Content cs) :
    Content (c :: cs) := (content_of_forall (List.forall_mem_singleton.mpr hc)).append h

theorem PlainWord.content {word : String} (h : PlainWord word) : Content word.toList := by
  refine content_of_forall fun c hc => ?_
  obtain ⟨-, hquote, hopen, hclose⟩ := h.plain c hc
  simp only [isQuote, Bool.or_eq_false_iff, beq_eq_false_iff_ne] at hquote
  exact ⟨hquote, hopen, hclose⟩

/-- Inside its quotes a literal does not end early, and after them it has ended. -/
theorem scanTag_escapeLiteral (quote : Char) (hquote : quote ≠ '\\') (cs rest : List Char) :
    scanTag (some quote) (escapeLiteral quote cs ++ quote :: rest) =
      (scanTag none rest).prepend (escapeLiteral quote cs ++ [quote]) := by
  induction cs with
  | nil =>
    rw [escapeLiteral, List.nil_append, scanTag_quoted quote hquote, if_pos rfl]
    rfl
  | cons c cs ih =>
    rw [escapeLiteral]
    split
    · rw [List.cons_append, List.cons_append, scanTag_escaped, ih]
      rfl
    · next hc =>
      rw [not_or] at hc
      rw [List.cons_append, scanTag_quoted quote hc.2, if_neg hc.1, ih]
      rfl

theorem spread_escapeLiteral (quote : Char) (cs : List Char) : Spread cs (escapeLiteral quote cs) := by
  induction cs with
  | nil => exact .nil
  | cons c cs ih =>
    rw [escapeLiteral]
    split
    · exact .backslash (.keep c ih)
    · exact .keep c ih

theorem piece_quoteLiteral {quote : Char} (hplain : quote ≠ '{' ∧ quote ≠ '!') {cs : List Char}
    (hcs : Markless cs) : Piece (quoteLiteral quote cs) where
  markless := by
    refine Markless.cons hplain.1 (((spread_escapeLiteral quote cs).markless hcs).append ?_ (.inr ?_))
    · exact markless_nil.cons hplain.1
    · rintro d ⟨⟩
      exact hplain
  closed c hc := by
    rw [quoteLiteral, List.cons_append, ← List.cons_append, List.getLast?_concat, Option.mem_some_iff] at hc
    exact hc ▸ hplain.1

theorem content_quoteLiteral {quote : Char} (hquote : isQuote quote = true) {cs : List Char} (hcs : Markless cs) :
    Content (quoteLiteral quote cs) := by
  -- a quote is none of the characters that mean something to the layers around it
  have hkind : quote = '"' ∨ quote = '\'' := by simpa [isQuote] using hquote
  have hplain : quote ≠ '\\' ∧ quote ≠ '{' ∧ quote ≠ '!' ∧ quote ≠ '}' := by
    rcases hkind with rfl | rfl <;> decide
  refine ⟨fun rest => ?_, piece_quoteLiteral ⟨hplain.2.1, hplain.2.2.1⟩ hcs⟩
  rw [quoteLiteral, List.append_assoc, List.cons_append, List.singleton_append, scanTag]
  · simp only [hkind, if_true]
    rw [scanTag_escapeLiteral quote hplain.1]
    rfl
  · exact fun _ h => absurd h hplain.2.2.2
  · exact fun _ h => absurd h hplain.2.1

mutual

theorem Argument.Printable.content : ∀ {a : Argument}, a.Printable → Content a.print
  | .bare _, h => PlainWord.content h
  | .quoted _, h => content_quoteLiteral rfl h
  | .sub _ _ _, ⟨hhead, hpositional, hnamed⟩ =>
    ((hhead.printable.content.append hpositional.content).append hnamed.content).cons (by decide)
      |>.append (content_nil.cons (by decide))

theorem PositionalPrintable.content : ∀ {as : List Argument}, PositionalPrintable as → Content (printPositional as)
  | [], _ => content_nil
  | _ :: _, ⟨ha, has⟩ => (ha.content.cons (by decide)).append has.content

theorem NamedPrintable.content : ∀ {as : List (String × Argument)}, NamedPrintable as → Content (printNamed as)
  | [], _ => content_nil
  | (_, _) :: _, ⟨hkey, ha, has⟩ =>
    ((hkey.content.cons (by decide)).append (ha.content.cons (by decide))).append has.content

end

theorem Call.Printable.content {call : Call} (h : call.Printable) : Content call.print :=
  (h.1.printable.content.append h.2.1.content).append h.2.2.content

/-! ## 5. The ends of a tag -/

/-- The text ends in something that is no blank. -/
def EndsSolid (cs : List Char) : Prop := ∃ before c, cs = before ++ [c] ∧ isBlank c = false

theorem EndsSolid.append {ds : List Char} (h : EndsSolid ds) (cs : List Char) : EndsSolid (cs ++ ds) := by
  obtain ⟨before, c, rfl, hc⟩ := h
  exact ⟨cs ++ before, c, (List.append_assoc _ _ _).symm, hc⟩

theorem EndsSolid.cons {cs : List Char} (h : EndsSolid cs) (c : Char) : EndsSolid (c :: cs) := h.append [c]

/-- Nothing is trimmed off a text with no blanks at its ends. -/
theorem trim_eq_self {c : Char} {cs : List Char} (hc : isBlank c = false) (h : EndsSolid (c :: cs)) :
    trim (c :: cs) = c :: cs := by
  refine trim_of_solid_ends (fun first hfirst => ?_) fun last hlast => ?_
  · cases Option.mem_some.mp hfirst
    exact hc
  · obtain ⟨before, d, hd, hblank⟩ := h
    rw [hd, List.getLast?_concat] at hlast
    cases Option.mem_some.mp hlast
    exact hblank

theorem PlainWord.endsSolid {word : String} (h : PlainWord word) : EndsSolid word.toList := by
  refine ⟨_, _, (List.dropLast_concat_getLast h.nonempty).symm, ?_⟩
  exact isBlank_of_isWordChar (h.plain _ (List.getLast_mem h.nonempty)).1

theorem Argument.Printable.endsSolid {a : Argument} (h : a.Printable) : EndsSolid a.print := by
  cases a with
  | bare word => exact PlainWord.endsSolid h
  | quoted s => exact ⟨_, '"', rfl, by decide⟩
  | sub head positional named => exact ⟨_, ')', rfl, by decide⟩
  | unbalanced => cases h

theorem PositionalPrintable.endsSolid {as : List Argument} (h : PositionalPrintable as) {cs : List Char}
    (hcs : EndsSolid cs) : EndsSolid (cs ++ printPositional as) := by
  induction as generalizing cs with
  | nil => rwa [printPositional, List.append_nil]
  | cons a as ih =>
    rw [printPositional, ← List.append_assoc]
    exact ih h.2 ((h.1.endsSolid.cons ' ').append cs)

theorem NamedPrintable.endsSolid {as : List (String × Argument)} (h : NamedPrintable as) {cs : List Char}
    (hcs : EndsSolid cs) : EndsSolid (cs ++ printNamed as) := by
  induction as generalizing cs with
  | nil => rwa [printNamed, List.append_nil]
  | cons entry as ih =>
    obtain ⟨key, a⟩ := entry
    rw [printNamed, ← List.append_assoc]
    exact ih h.2.2 (((h.2.1.endsSolid.cons '=').append (' ' :: key.toList)).append cs)

theorem Call.Printable.endsSolid {call : Call} (h : call.Printable) : EndsSolid call.print :=
  h.2.2.endsSolid (h.2.1.endsSolid h.1.printable.endsSolid)

/-- A call in print starts with the first character of its name. -/
theorem Call.Printable.print_eq {call : Call} (h : call.Printable) :
    ∃ name c cs, call.name? = some name ∧ PlainWord name ∧ name.toList.head? = some c ∧ call.print = c :: cs ∧
      isBlank c = false := by
  obtain ⟨head, positional, named⟩ := call
  cases head with
  | bare name =>
    have hplain : PlainWord name := h.1
    cases hname : name.toList with
    | nil => exact absurd hname hplain.nonempty
    | cons c cs =>
      have hc := hplain.isWord.starts [] c (by rw [hname]; rfl)
      refine ⟨name, c, cs ++ (printPositional positional ++ printNamed named), rfl, hplain, by rw [hname]; rfl, ?_, hc⟩
      rw [Call.print, Argument.print, hname, List.append_assoc, List.cons_append]
  | _ => exact absurd h.1 id

theorem Call.Printable.trim {call : Call} (h : call.Printable) : trim call.print = call.print := by
  obtain ⟨name, c, cs, -, -, -, hprint, hc⟩ := h.print_eq
  have hend := h.endsSolid
  rw [hprint] at hend ⊢
  exact trim_eq_self hc hend

theorem PlainWord.trim {word : String} (h : PlainWord word) : trim word.toList = word.toList := by
  have hend := h.endsSolid
  have hstart := h.isWord.starts []
  rw [List.append_nil] at hstart
  cases hword : word.toList with
  | nil => exact absurd hword h.nonempty
  | cons c cs =>
    rw [hword] at hend hstart
    exact trim_eq_self (hstart c rfl) hend

end Stencil.Template
