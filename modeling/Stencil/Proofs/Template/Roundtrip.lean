import Stencil.Proofs.Template.Printing
import Stencil.Proofs.Template.Serialisation
import Stencil.Template

/-!
Parsing what was printed.

Parsing has three layers, each with its own idea of what a quote, a brace or a parenthesis means. A printed source
passes through all of them unharmed: no comment is found in it, the tokens are those of the nodes, the content of
every tag reads as its call, and the tags of the blocks belong together as they did. Only the places of the nodes
are those of the printed source, whatever they were before.
-/

namespace Stencil.Template

open Stencil.Text

/-! ## 1. Tokens in print -/

mutual

/-- The kinds of the tokens of a node. -/
def Node.kinds : Node → List TokenKind
  | .text s => [.text s]
  | .expression call _ => [.expression (.ofList call.print)]
  | .block call body inverse _ _ =>
    .opening (.ofList call.print) :: kindsOfNodes body ++ kindsOfInverse inverse ++ [.closing (call.name?.getD "")]
  | .invalid _ => []

/-- The kinds of the tokens of nodes. -/
def kindsOfNodes : List Node → List TokenKind
  | [] => []
  | node :: nodes => node.kinds ++ kindsOfNodes nodes

/-- The kinds of the tokens of a second branch. -/
def kindsOfInverse : Option (List Node) → List TokenKind
  | none => []
  | some nodes => .otherwise :: kindsOfNodes nodes

end

theorem printTag_append (content rest : List Char) :
    printTag content ++ rest = '{' :: '{' :: (content ++ '}' :: '}' :: rest) := by
  simp [printTag]

theorem kinds_printTag {content : List Char} (h : Content content) (htrim : trim content = content)
    (rest : List Char) : kinds (printTag content ++ rest) = .ofInner content :: kinds rest := by
  rw [printTag_append, kinds_tag (h.passedOver.tagContent rest), htrim]

theorem eq_else_of_print {call : Call} (h : call.Printable) (hprint : call.print = ['e', 'l', 's', 'e']) :
    call = ⟨.bare "else", [], []⟩ := by
  obtain ⟨head, positional, named⟩ := call
  have hblank : ' ' ∉ Call.print ⟨head, positional, named⟩ := by
    rw [hprint]
    decide
  simp only [Call.print, List.mem_append, not_or] at hblank
  -- any argument would come with a blank before it
  have hpositional : positional = [] := by
    cases positional with
    | nil => rfl
    | cons a as => exact absurd List.mem_cons_self hblank.1.2
  have hnamed : named = [] := by
    cases named with
    | nil => rfl
    | cons entry as => exact absurd List.mem_cons_self hblank.2
  subst hpositional hnamed
  cases head with
  | bare name =>
    simp only [Call.print, Argument.print, printPositional, printNamed, List.append_nil] at hprint
    rw [← String.ofList_toList (s := name), hprint]
  | _ => exact absurd h.1 id

theorem kinds_expression {call : Call} (h : call.Printable) (hdistinguished : call.Distinguished)
    (rest : List Char) : kinds (printTag call.print ++ rest) = .expression (.ofList call.print) :: kinds rest := by
  rw [kinds_printTag h.content h.trim]
  obtain ⟨name, c, cs, hname, -, hhead, hprint, -⟩ := h.print_eq
  have hc := hdistinguished.head name hname c hhead
  have helse : call.print ≠ ['e', 'l', 's', 'e'] := fun heq => hdistinguished.notElse (eq_else_of_print h heq)
  rw [hprint] at helse ⊢
  unfold TokenKind.ofInner
  split
  · next heq => exact absurd (List.cons.inj heq).1 hc.1
  · next heq => exact absurd (List.cons.inj heq).1 hc.2.1
  · next heq => exact absurd heq helse
  · rfl

theorem kinds_opening {call : Call} (h : call.Printable) (rest : List Char) :
    kinds (printTag ('#' :: call.print) ++ rest) = .opening (.ofList call.print) :: kinds rest := by
  rw [kinds_printTag (h.content.cons (by decide)) (trim_eq_self (by decide) (h.endsSolid.cons '#')),
    TokenKind.ofInner, h.trim]

theorem kinds_closing {name : String} (h : PlainWord name) (rest : List Char) :
    kinds (printTag ('/' :: name.toList) ++ rest) = .closing name :: kinds rest := by
  rw [kinds_printTag (h.content.cons (by decide)) (trim_eq_self (by decide) (h.endsSolid.cons '/')),
    TokenKind.ofInner, h.trim, String.ofList_toList]

theorem kinds_otherwise (rest : List Char) :
    kinds (printTag ['e', 'l', 's', 'e'] ++ rest) = .otherwise :: kinds rest := by
  rw [kinds_printTag (content_of_forall (by simp)) (by decide)]
  rfl

/-- What follows a text among printed nodes is a tag or the end. -/
theorem endsText_printNodes {nodes : List Node} (hnodes : NodesPrintable nodes)
    (hnext : ∀ next ∈ nodes.head?, next.isText = false) {rest : List Char} (hrest : EndsText rest) :
    EndsText (printNodes nodes ++ rest) := by
  cases nodes with
  | nil => exact hrest
  | cons node nodes =>
    have htag := hnext node rfl
    cases node with
    | text s => cases htag
    | expression call span =>
      right
      rw [printNodes, Node.print, List.append_assoc, printTag_append]
      exact ⟨_, rfl⟩
    | block call body inverse bodySpan span =>
      right
      rw [printNodes, Node.print]
      simp only [List.append_assoc]
      rw [printTag_append]
      exact ⟨_, rfl⟩
    | invalid defect => exact absurd hnodes.1 id

theorem endsText_printTag (content rest : List Char) : EndsText (printTag content ++ rest) := by
  rw [printTag_append]
  exact .inr ⟨_, rfl⟩

theorem endsText_printInverse (inverse : Option (List Node)) {rest : List Char} (hrest : EndsText rest) :
    EndsText (printInverse inverse ++ rest) := by
  cases inverse with
  | none => exact hrest
  | some nodes =>
    rw [printInverse, List.append_assoc]
    exact endsText_printTag _ _

/- A block has nodes of its own, so this goes along the nesting of the blocks. -/
mutual

theorem kinds_node : ∀ {node : Node}, node.Printable → ∀ {rest : List Char},
    (node.isText = true → EndsText rest) → kinds (node.print ++ rest) = node.kinds ++ kinds rest
  | .text s, ⟨hne, hclosed, _⟩, rest, hrest => by
    rw [Node.print, kinds_escapeText hne hclosed (hrest rfl), String.ofList_toList]
    rfl
  | .expression call _, ⟨hcall, hdistinguished⟩, rest, _ => kinds_expression hcall hdistinguished rest
  | .block call body inverse _ _, ⟨hcall, hbody, hinverse⟩, rest, _ => by
    obtain ⟨name, c, cs, hname, hplain, -⟩ := hcall.print_eq
    -- a text at the end of either branch has a tag behind it
    have hclose : EndsText (printTag ('/' :: name.toList) ++ rest) := endsText_printTag _ rest
    rw [Node.print, Node.kinds, hname, Option.getD_some]
    simp only [List.append_assoc, List.cons_append]
    rw [kinds_opening hcall, kinds_nodes hbody (endsText_printInverse inverse hclose), kinds_inverse hinverse hclose,
      kinds_closing hplain]
    rfl

theorem kinds_nodes : ∀ {nodes : List Node}, NodesPrintable nodes → ∀ {rest : List Char}, EndsText rest →
    kinds (printNodes nodes ++ rest) = kindsOfNodes nodes ++ kinds rest
  | [], _, _, _ => rfl
  | node :: nodes, ⟨hnode, hnext, hnodes⟩, rest, hrest => by
    rw [printNodes, kindsOfNodes, List.append_assoc, List.append_assoc,
      kinds_node hnode fun htext => endsText_printNodes hnodes (hnext htext) hrest, kinds_nodes hnodes hrest]

theorem kinds_inverse : ∀ {inverse : Option (List Node)}, InversePrintable inverse → ∀ {rest : List Char},
    EndsText rest → kinds (printInverse inverse ++ rest) = kindsOfInverse inverse ++ kinds rest
  | none, _, _, _ => rfl
  | some nodes, hnodes, rest, hrest => by
    rw [printInverse, kindsOfInverse, List.append_assoc, kinds_otherwise, kinds_nodes hnodes hrest]
    rfl

end

/-! ## 2. Trees without places -/

mutual

/-- A node with no places in it. -/
def Node.withoutSpans : Node → Node
  | .text s => .text s
  | .expression call _ => .expression call default
  | .block call body inverse _ _ =>
    .block call (nodesWithoutSpans body) (inverseWithoutSpans inverse) default default
  | .invalid defect => .invalid { defect with span := default }

/-- Nodes with no places in them. -/
def nodesWithoutSpans : List Node → List Node
  | [] => []
  | node :: nodes => node.withoutSpans :: nodesWithoutSpans nodes

/-- A second branch with no places in it. -/
def inverseWithoutSpans : Option (List Node) → Option (List Node)
  | none => none
  | some nodes => some (nodesWithoutSpans nodes)

end

mutual

theorem defects_withoutSpans : ∀ node : Node,
    node.withoutSpans.defects = node.defects.map fun defect => { defect with span := default }
  | .text _ | .expression _ _ | .invalid _ => rfl
  | .block _ body inverse _ _ => by
    rw [Node.withoutSpans, Node.defects, Node.defects, List.map_append, listDefects_withoutSpans body,
      branchDefects_withoutSpans inverse]

theorem listDefects_withoutSpans : ∀ nodes : List Node,
    listDefects (nodesWithoutSpans nodes) = (listDefects nodes).map fun defect => { defect with span := default }
  | [] => rfl
  | node :: nodes => by
    rw [nodesWithoutSpans, listDefects, listDefects, List.map_append, defects_withoutSpans node,
      listDefects_withoutSpans nodes]

theorem branchDefects_withoutSpans : ∀ inverse : Option (List Node),
    branchDefects (inverseWithoutSpans inverse) =
      (branchDefects inverse).map fun defect => { defect with span := default }
  | none => rfl
  | some nodes => listDefects_withoutSpans nodes

end

mutual

theorem Node.Printable.defects : ∀ {node : Node}, node.Printable → node.defects = []
  | .text _, _ | .expression _ _, _ => rfl
  | .block _ _ _ _ _, ⟨_, hbody, hinverse⟩ => by rw [Node.defects, hbody.defects, hinverse.defects, List.append_nil]

theorem NodesPrintable.defects : ∀ {nodes : List Node}, NodesPrintable nodes → listDefects nodes = []
  | [], _ => rfl
  | _ :: _, ⟨hnode, _, hnodes⟩ => by rw [listDefects, hnode.defects, hnodes.defects, List.append_nil]

theorem InversePrintable.defects : ∀ {inverse : Option (List Node)}, InversePrintable inverse →
    branchDefects inverse = []
  | none, _ => rfl
  | some _, h => NodesPrintable.defects h

end

theorem isEmpty_print {call : Call} (h : call.Printable) : (String.ofList call.print).isEmpty = false := by
  obtain ⟨-, c, cs, -, -, -, hprint, -⟩ := h.print_eq
  rw [hprint]
  simp

theorem PlainWord.isEmpty {word : String} (h : PlainWord word) : word.isEmpty = false := by
  have hne := h.nonempty
  simp_all

/-- The name of a call in print, which is not empty. -/
theorem name_read_print {call : Call} (h : call.Printable) :
    ∃ name, call.name? = some name ∧ (Call.read (.ofList call.print)).name? = some name ∧ PlainWord name := by
  obtain ⟨name, -, -, hname, hplain, -⟩ := h.print_eq
  exact ⟨name, hname, by rw [h.writtenAs.read, hname], hplain⟩

/-- Tokens of the kinds of printable nodes are those of the nodes themselves, but for the places. -/
theorem exists_serialises : ∀ {nodes : List Node}, NodesPrintable nodes → ∀ {ts : List Token},
    ts.map (·.kind) = kindsOfNodes nodes →
      ∃ nodes', Serialises ts nodes' ∧ nodesWithoutSpans nodes' = nodesWithoutSpans nodes
  | [], _, ts, hts => by
    rw [List.map_eq_nil_iff.mp hts]
    exact ⟨[], .nil, rfl⟩
  | .text s :: nodes, ⟨_, _, hnodes⟩, ts, hts => by
    obtain ⟨⟨kind, span⟩, others, rfl, rfl, hothers⟩ := List.map_eq_cons_iff.mp hts
    obtain ⟨nodes', hserialises, hsame⟩ := exists_serialises hnodes hothers
    exact ⟨.text s :: nodes', .text hserialises, congrArg (_ :: ·) hsame⟩
  | .expression call span :: nodes, ⟨⟨hcall, _⟩, _, hnodes⟩, ts, hts => by
    obtain ⟨⟨kind, span⟩, others, rfl, rfl, hothers⟩ := List.map_eq_cons_iff.mp hts
    obtain ⟨nodes', hserialises, hsame⟩ := exists_serialises hnodes hothers
    refine ⟨_, .expression (isEmpty_print hcall) hserialises, ?_⟩
    rw [hcall.writtenAs.read]
    exact congrArg (_ :: ·) hsame
  | .block call body none bodySpan span :: nodes, ⟨⟨hcall, hbody, _⟩, _, hnodes⟩, ts, hts => by
    obtain ⟨name, hname, hread, hplain⟩ := name_read_print hcall
    have hkinds : kindsOfNodes (.block call body none bodySpan span :: nodes) =
        .opening (.ofList call.print) :: (kindsOfNodes body ++ .closing name :: kindsOfNodes nodes) := by
      simp [kindsOfNodes, Node.kinds, kindsOfInverse, hname]
    rw [hkinds] at hts
    obtain ⟨⟨kind, first⟩, afterOpen, rfl, rfl, hafterOpen⟩ := List.map_eq_cons_iff.mp hts
    obtain ⟨inside, fromClose, rfl, hinside, hfromClose⟩ := List.map_eq_append_iff.mp hafterOpen
    obtain ⟨⟨kind, last⟩, others, rfl, rfl, hothers⟩ := List.map_eq_cons_iff.mp hfromClose
    obtain ⟨body', hbody', hsameBody⟩ := exists_serialises hbody hinside
    obtain ⟨nodes', hnodes', hsame⟩ := exists_serialises hnodes hothers
    refine ⟨_, .block hread hplain.isEmpty hbody' hnodes', ?_⟩
    simp [nodesWithoutSpans, Node.withoutSpans, inverseWithoutSpans, hcall.writtenAs.read, hsameBody, hsame]
  | .block call body (some inverse) bodySpan span :: nodes, ⟨⟨hcall, hbody, hinverse⟩, _, hnodes⟩, ts, hts => by
    obtain ⟨name, hname, hread, hplain⟩ := name_read_print hcall
    have hkinds : kindsOfNodes (.block call body (some inverse) bodySpan span :: nodes) =
        .opening (.ofList call.print) :: (kindsOfNodes body ++
          .otherwise :: (kindsOfNodes inverse ++ .closing name :: kindsOfNodes nodes)) := by
      simp [kindsOfNodes, Node.kinds, kindsOfInverse, hname]
    rw [hkinds] at hts
    obtain ⟨⟨kind, first⟩, afterOpen, rfl, rfl, hafterOpen⟩ := List.map_eq_cons_iff.mp hts
    obtain ⟨inside, fromElse, rfl, hinside, hfromElse⟩ := List.map_eq_append_iff.mp hafterOpen
    obtain ⟨⟨kind, middle⟩, afterElse, rfl, rfl, hafterElse⟩ := List.map_eq_cons_iff.mp hfromElse
    obtain ⟨second, fromClose, rfl, hsecond, hfromClose⟩ := List.map_eq_append_iff.mp hafterElse
    obtain ⟨⟨kind, last⟩, others, rfl, rfl, hothers⟩ := List.map_eq_cons_iff.mp hfromClose
    obtain ⟨body', hbody', hsameBody⟩ := exists_serialises hbody hinside
    obtain ⟨inverse', hinverse', hsameInverse⟩ := exists_serialises hinverse hsecond
    obtain ⟨nodes', hnodes', hsame⟩ := exists_serialises hnodes hothers
    refine ⟨_, .branches hread hplain.isEmpty hbody' hinverse' hnodes', ?_⟩
    simp [nodesWithoutSpans, Node.withoutSpans, inverseWithoutSpans, hcall.writtenAs.read, hsameBody, hsameInverse,
      hsame]

/-! ## 3. The source in print -/

theorem spread_escapeText (cs : List Char) : Spread cs (escapeText cs) := by
  fun_induction escapeText cs with
  | case1 cs ih => exact .backslash (.keep '{' (.keep '{' ih))
  | case2 c cs _ ih => exact .keep c ih
  | case3 => exact .nil

theorem getLast?_escapeText (cs : List Char) : (escapeText cs).getLast? = cs.getLast? := by
  fun_induction escapeText cs with
  | case1 cs ih => simp [List.getLast?_cons, ih]
  | case2 c cs _ ih => simp [List.getLast?_cons, ih]
  | case3 => rfl

theorem piece_escapeText {cs : List Char} (hclosed : ClosedText cs) (hcs : Markless cs) : Piece (escapeText cs) where
  markless := (spread_escapeText cs).markless hcs
  closed c hc := (hclosed c (getLast?_escapeText cs ▸ hc)).1

/-- The braces of a tag make no mark together with its content, unless the content starts like a comment. -/
theorem piece_printTag {content : List Char} (h : Content content) (hhead : ∀ c ∈ content.head?, c ≠ '{' ∧ c ≠ '!') :
    Piece (printTag content) := by
  have hopen : Markless ['{', '{'] := fun hmark => absurd hmark.length_le (by decide)
  have hclose : Piece ['}', '}'] := piece_of_forall (by simp)
  refine ⟨(hopen.append h.piece.markless (.inr hhead)).append hclose.markless (.inr (by simp)), fun c hc => ?_⟩
  rw [printTag, List.getLast?_append] at hc
  exact hclose.closed c hc

mutual

theorem Node.Printable.piece : ∀ {node : Node}, node.Printable → Piece node.print
  | .text _, ⟨_, hclosed, hmarkless⟩ => piece_escapeText hclosed hmarkless
  | .expression call _, ⟨hcall, hdistinguished⟩ => by
    obtain ⟨name, c, cs, hname, hplain, hhead, hprint, -⟩ := hcall.print_eq
    refine piece_printTag hcall.content ?_
    rw [hprint]
    rintro d ⟨⟩
    exact ⟨(hplain.plain _ (List.mem_of_mem_head? hhead)).2.2.1, (hdistinguished.head name hname _ hhead).2.2⟩
  | .block call body inverse _ _, ⟨hcall, hbody, hinverse⟩ => by
    obtain ⟨name, -, -, hname, hplain, -⟩ := hcall.print_eq
    have hopen : Piece (printTag ('#' :: call.print)) :=
      piece_printTag (hcall.content.cons (by decide)) (by simp)
    have hclose : Piece (printTag ('/' :: name.toList)) :=
      piece_printTag (hplain.content.cons (by decide)) (by simp)
    rw [Node.print, hname, Option.getD_some]
    exact ((hopen.append hbody.piece).append hinverse.piece).append hclose

theorem NodesPrintable.piece : ∀ {nodes : List Node}, NodesPrintable nodes → Piece (printNodes nodes)
  | [], _ => piece_of_forall (by simp [printNodes])
  | _ :: _, ⟨hnode, _, hnodes⟩ => hnode.piece.append hnodes.piece

theorem InversePrintable.piece : ∀ {inverse : Option (List Node)}, InversePrintable inverse →
    Piece (printInverse inverse)
  | none, _ => piece_of_forall (by simp [printInverse])
  | some _, h => (piece_printTag (content_of_forall (by simp)) (by simp)).append (NodesPrintable.piece h)

end

/-! ## 4. The round trip -/

/-- The source of the printable nodes is read back as these nodes, but for the places, and nothing is wrong with it. -/
theorem parse_print {nodes : List Node} (h : NodesPrintable nodes) :
    (parse (.ofList (printNodes nodes))).defects = [] ∧
      nodesWithoutSpans (parse (.ofList (printNodes nodes))).nodes = nodesWithoutSpans nodes := by
  have hsource : parse (.ofList (printNodes nodes)) =
      ⟨.ofList (printNodes nodes), nodesOfTokens (tokens (.ofList (printNodes nodes)))⟩ := by
    rw [parse, String.toList_ofList, Comment.strip_eq_self h.piece.markless]
  have hkinds : (tokens (.ofList (printNodes nodes))).map (·.kind) = kindsOfNodes nodes := by
    have hread := kinds_nodes h (.inl rfl : EndsText [])
    rw [List.append_nil, kinds_nil, List.append_nil] at hread
    rw [tokens, String.toList_ofList, map_kind_tokensFrom, hread]
  obtain ⟨nodes', hserialises, hsame⟩ := exists_serialises h hkinds
  rw [hsource, hserialises.nodesOfTokens]
  refine ⟨?_, hsame⟩
  -- the nodes are the same but for the places, and so are their defects
  have hdefects := listDefects_withoutSpans nodes'
  rw [hsame, listDefects_withoutSpans, h.defects] at hdefects
  exact List.map_eq_nil_iff.mp hdefects.symm

/-- Text before a call with a literal full of braces and quotes, and a block with two branches. -/
def sampleNodes : List Node :=
  [.text "say \x7b\x7b\x7b or ",
    .expression ⟨.bare "join", [.quoted "\x7d\x7d \"é\\ \x7b\x7b", .sub (.bare "upper") [.bare "name"] []],
      [("by", .quoted "'")]⟩ default,
    .block ⟨.bare "if", [.bare "this.ok"], []⟩ [.text "yes"]
      (some [.block ⟨.bare "each", [.bare "items"], []⟩ [] none default default]) default default]

theorem parse_print_sampleNodes :
    NodesPrintable sampleNodes ∧ (parse (.ofList (printNodes sampleNodes))).defects = [] ∧
      nodesWithoutSpans (parse (.ofList (printNodes sampleNodes))).nodes = nodesWithoutSpans sampleNodes := by
  have hprintable : NodesPrintable sampleNodes := by decide +kernel
  exact ⟨hprintable, parse_print hprintable⟩

end Stencil.Template
