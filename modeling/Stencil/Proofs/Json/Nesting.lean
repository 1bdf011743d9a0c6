import Stencil.Json.Reader

/-!
Documents from tokens.

The reader of tokens goes through a document with a stack of open lists and objects, and what it finds out about a
document inside of others does not depend on the stack. So a document is read in front of any stack, if its parts are:
the parts of a list take the reader from one comma to the next, with the parts before them on top of the stack, and so
do the members of an object. By induction on the document every document is read from its tokens
(`Written.ofTokens?_tokens`).
-/

namespace Stencil.Json

/-! ## 1. The tokens of a document -/

mutual

/-- The tokens that spell a document. -/
def Written.tokens : Written → List Token
  | .null => [.null]
  | .bool b => [.bool b]
  | .number n => [.number n]
  | .string pieces => [.string pieces]
  | .list items => .openList :: (Written.itemTokens items ++ [.closeList])
  | .map members => .openMap :: (Written.memberTokens members ++ [.closeMap])

/-- The items of a list with commas between them. -/
def Written.itemTokens : List Written → List Token
  | [] => []
  | [item] => item.tokens
  | item :: items => item.tokens ++ .comma :: Written.itemTokens items

/-- The members of an object with commas between them. -/
def Written.memberTokens : List (List Piece × Written) → List Token
  | [] => []
  | [(key, item)] => .string key :: .colon :: item.tokens
  | (key, item) :: members => .string key :: .colon :: (item.tokens ++ .comma :: Written.memberTokens members)

end

/-- What holds for a document if it holds for its parts holds for every document. -/
@[elab_as_elim]
theorem Written.induct {motive : Written → Prop} (null : motive .null) (bool : ∀ b, motive (.bool b))
    (number : ∀ n, motive (.number n)) (string : ∀ pieces, motive (.string pieces))
    (list : ∀ items, (∀ item ∈ items, motive item) → motive (.list items))
    (map : ∀ members, (∀ member ∈ members, motive member.2) → motive (.map members)) : ∀ w, motive w
  | .null => null
  | .bool b => bool b
  | .number n => number n
  | .string pieces => string pieces
  | .list items => list items fun item _ => induct null bool number string list map item
  | .map members => map members fun member _ => induct null bool number string list map member.2
termination_by w => w
decreasing_by
  · have := List.sizeOf_lt_of_mem ‹item ∈ items›
    simp only [Written.list.sizeOf_spec]
    omega
  · have := List.sizeOf_lt_of_mem ‹member ∈ members›
    obtain ⟨key, item⟩ := member
    simp only [Written.map.sizeOf_spec, Prod.mk.sizeOf_spec] at *
    omega

/-! ## 2. Reading -/

/-- The tokens take the reader from one position to another. -/
def Position.Leads (p : Position) (tokens : List Token) (q : Position) : Prop :=
  tokens.foldlM Position.step? p = some q

namespace Position

variable {p q r : Position} {token : Token} {tokens more : List Token} {stack : List OpenPart}

theorem Leads.cons (h : p.step? token = some q) (hmore : q.Leads tokens r) : p.Leads (token :: tokens) r := by
  rw [Leads, List.foldlM_cons, h]
  exact hmore

theorem Leads.append (h : p.Leads tokens q) (hmore : q.Leads more r) : p.Leads (tokens ++ more) r := by
  rw [Leads, List.foldlM_append, h]
  exact hmore

theorem leads_nil (p : Position) : p.Leads [] p := rfl

end Position

namespace Written

open Position

variable {w : Written} {stack : List OpenPart}

/-- The tokens of the document take the reader behind it, whatever is open. -/
def Reads (w : Written) : Prop := ∀ stack, Leads ⟨.value, stack⟩ w.tokens (.finish w stack)

theorem exists_itemTokens_eq (item : Written) (items : List Written) :
    ∃ more, itemTokens (item :: items) = item.tokens ++ more := by
  cases items with
  | nil => exact ⟨[], (List.append_nil _).symm⟩
  | cons next items => exact ⟨.comma :: itemTokens (next :: items), rfl⟩

/-- A first item is read like any other one: it does not start with the end of the list. -/
theorem leads_firstItem {more : List Token} {q : Position} (h : Leads ⟨.value, stack⟩ (w.tokens ++ more) q) :
    Leads ⟨.firstItem, stack⟩ (w.tokens ++ more) q := by
  cases w <;> exact h

/-- The items of a list and its end, behind the items that are done. -/
theorem leads_itemTokens {item : Written} {items : List Written} (h : ∀ w ∈ item :: items, w.Reads)
    (done : List Written) (stack : List OpenPart) :
    Leads ⟨.value, .list done :: stack⟩ (itemTokens (item :: items) ++ [.closeList])
      (.finish (.list (done.reverse ++ item :: items)) stack) := by
  have hitem := h item List.mem_cons_self (.list done :: stack)
  induction items generalizing item done with
  | nil =>
    -- the list is closed behind its last item
    refine hitem.append (Leads.cons ?_ (leads_nil _))
    rw [← List.reverse_cons]
    rfl
  | cons next items ih =>
    have hnext := fun w hw => h w (List.mem_cons_of_mem _ hw)
    -- the item joins those that are done, and the next one is expected behind the comma
    have hmore := ih hnext (item :: done) (hnext next List.mem_cons_self _)
    rw [List.reverse_cons, List.append_assoc, List.singleton_append] at hmore
    rw [itemTokens, List.append_assoc, List.cons_append]
    · exact hitem.append (Leads.cons rfl hmore)
    · exact List.cons_ne_nil _ _

/-- The members of an object and its end, behind the members that are done. -/
theorem leads_memberTokens {key : List Piece} {item : Written} {members : List (List Piece × Written)}
    (h : ∀ member ∈ (key, item) :: members, member.2.Reads) (done : List (List Piece × Written))
    (stack : List OpenPart) :
    Leads ⟨.key done, stack⟩ (memberTokens ((key, item) :: members) ++ [.closeMap])
      (.finish (.map (done.reverse ++ (key, item) :: members)) stack) := by
  have hitem := h (key, item) List.mem_cons_self (.map done key :: stack)
  induction members generalizing key item done with
  | nil =>
    refine Leads.cons rfl (Leads.cons rfl (hitem.append (Leads.cons ?_ (leads_nil _))))
    rw [← List.reverse_cons]
    rfl
  | cons next members ih =>
    obtain ⟨nextKey, next⟩ := next
    have hnext := fun w hw => h w (List.mem_cons_of_mem _ hw)
    have hmore := ih hnext ((key, item) :: done) (hnext _ List.mem_cons_self _)
    rw [List.reverse_cons, List.append_assoc, List.singleton_append] at hmore
    rw [memberTokens, List.cons_append, List.cons_append, List.append_assoc, List.cons_append]
    · exact Leads.cons rfl (Leads.cons rfl (hitem.append (Leads.cons rfl hmore)))
    · exact List.cons_ne_nil _ _

/-- Every document is read from its tokens, in front of any stack. -/
theorem reads (w : Written) : w.Reads := by
  induction w using Written.induct with
  | null => exact fun stack => Leads.cons rfl (leads_nil _)
  | bool b => exact fun stack => Leads.cons rfl (leads_nil _)
  | number n => exact fun stack => Leads.cons rfl (leads_nil _)
  | string pieces => exact fun stack => Leads.cons rfl (leads_nil _)
  | list items ih =>
    intro stack
    cases items with
    | nil => exact Leads.cons rfl (Leads.cons rfl (leads_nil _))
    | cons item items =>
      have hitems := leads_itemTokens ih [] stack
      obtain ⟨more, hmore⟩ := exists_itemTokens_eq item items
      rw [hmore, List.append_assoc] at hitems
      rw [tokens, hmore, List.append_assoc]
      exact Leads.cons rfl (leads_firstItem hitems)
  | map members ih =>
    intro stack
    cases members with
    | nil => exact Leads.cons rfl (Leads.cons rfl (leads_nil _))
    | cons member members =>
      obtain ⟨key, item⟩ := member
      have hmembers := leads_memberTokens ih [] stack
      refine Leads.cons rfl ?_
      -- a first name is read like any other one
      cases members with
      | nil => exact hmembers
      | cons next members => exact hmembers

/-- The tokens of a document spell it, and nothing else. -/
theorem ofTokens?_tokens (w : Written) : ofTokens? w.tokens = some w := by
  have hreads : w.tokens.foldlM step? ⟨.value, []⟩ = some ⟨.after w, []⟩ := w.reads []
  rw [ofTokens?, hreads]

end Written

end Stencil.Json
