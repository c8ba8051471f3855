import Mathlib.Data.List.Nodup
import Mathlib.Data.List.Pairwise
import PageAudit.Proofs.Html.Order
import PageAudit.Proofs.Html.PlainText
import PageAudit.Proofs.Page.Lookup
/-!
Scopes. An element is looked for in a whole document or below one of its elements. What stands below an element
is a stretch of the list of all elements (`infix_elements`), and for two elements these stretches are nested or
apart (`nested_or_apart`), because the elements of a document that was read are numbered in document order and
none is listed twice (`ordered_parse`). `lookups_agree` says what follows for the questions that a document is
asked: they see the same elements in the same order, whatever the scope and however the names are spelled.
-/
namespace PageAudit.Html

namespace Node

/-- The place in document order that an element was given. -/
def position : Node → Nat
  | .text _ => 0
  | .element e _ => e.position

/-- Nodes in document order. -/
def Ascending (ns : List Node) : Prop := ns.Pairwise fun a b => a.position < b.position

theorem Ascending.nodup {ns : List Node} (h : Ascending ns) : ns.Nodup :=
  h.imp fun hlt heq => Nat.ne_of_lt hlt (congrArg position heq)

theorem Ascending.sublist {ns ms : List Node} (h : Ascending ns) (hsub : ms.Sublist ns) : Ascending ms :=
  List.Pairwise.sublist hsub h

/-! ### Stretches -/

variable {n e f : Node}

theorem elements_eq_cons (h : n.IsElement) : n.elements = n :: n.innerElements := by
  cases n with
  | text s => exact h.elim
  | element d below => rw [elements_element, innerElements_eq, children]

theorem isElement_of_mem (h : e ∈ n.elements) : e.IsElement := (mem_elements_iff.mp h).1

/-- What stands below an element comes right behind it. -/
theorem elements_of_mem (h : e ∈ n.elements) : e.elements = e :: e.innerElements :=
  elements_eq_cons (isElement_of_mem h)

/-- The elements from one of a node on are a stretch of the elements of the node. -/
theorem infix_elements (h : e ∈ n.elements) : e.elements <:+: n.elements := by
  induction n using induct with
  | text s => exact absurd h List.not_mem_nil
  | element d children ih =>
    rw [elements_element] at h
    rcases List.mem_cons.mp h with rfl | h
    · exact List.infix_rfl
    · rw [elements_element]
      obtain ⟨m, hm, he⟩ := List.mem_flatMap.mp h
      have hchildren := (ih m hm he).trans (List.infix_flatMap_of_mem hm elements)
      exact hchildren.trans (List.suffix_cons _ _).isInfix

theorem infix_innerElements (h : e ∈ n.elements) : e.innerElements <:+: n.elements := by
  have hinner : e.innerElements <:+: e.elements := by
    rw [elements_of_mem h]
    exact (List.suffix_cons _ _).isInfix
  exact hinner.trans (infix_elements h)

/-- What stands below an element that is below another is a stretch of what stands below that one. -/
theorem infix_innerElements_inner (h : e ∈ n.innerElements) : e.innerElements <:+: n.innerElements := by
  rw [innerElements_eq n] at h ⊢
  obtain ⟨m, hm, he⟩ := List.mem_flatMap.mp h
  exact (infix_innerElements he).trans (List.infix_flatMap_of_mem hm elements)

/-- Of two elements, one is below the other, or their stretches have no element in common. -/
theorem nested_or_apart (hn : n.elements.Nodup) (he : e ∈ n.elements) (hf : f ∈ n.elements) :
    e ∈ f.elements ∨ f ∈ e.elements ∨ e.elements.Disjoint f.elements := by
  induction n using induct with
  | text s => exact absurd he List.not_mem_nil
  | element d children ih =>
    by_cases hetop : e = .element d children
    · exact .inr (.inl (hetop ▸ hf))
    by_cases hftop : f = .element d children
    · exact .inl (hftop ▸ he)
    rw [elements_element] at hn he hf
    obtain ⟨m, hm, he⟩ := List.mem_flatMap.mp ((List.mem_cons.mp he).resolve_left hetop)
    obtain ⟨m', hm', hf⟩ := List.mem_flatMap.mp ((List.mem_cons.mp hf).resolve_left hftop)
    obtain ⟨hchild, hapart⟩ := List.nodup_flatMap.mp (List.nodup_cons.mp hn).2
    by_cases hsame : m = m'
    · subst hsame
      exact ih m hm (hchild m hm) he hf
    · -- below different children
      have hsymm : Std.Symm (Function.onFun List.Disjoint elements) := ⟨fun _ _ h _ hx hx' => h hx' hx⟩
      have hdisjoint : m.elements.Disjoint m'.elements := hapart.forall hm hm' hsame
      refine .inr (.inr fun x hxe hxf => ?_)
      exact hdisjoint ((infix_elements he).subset hxe) ((infix_elements hf).subset hxf)

end Node

/-! ### Numbering -/

namespace Arena

/-- Elements numbered one after the other from `next` to right before `free`. -/
def Numbered (next free : Nat) (ns : List Node) : Prop :=
  ∃ count, ns.map Node.position = List.range' next count ∧ free = next + count

theorem Numbered.nil (next : Nat) : Numbered next next [] := ⟨0, rfl, rfl⟩

theorem Numbered.append {next between free : Nat} {ns ms : List Node} (h : Numbered next between ns)
    (h' : Numbered between free ms) : Numbered next free (ns ++ ms) := by
  obtain ⟨count, hns, rfl⟩ := h
  obtain ⟨count', hms, rfl⟩ := h'
  refine ⟨count + count', ?_, Nat.add_assoc ..⟩
  rw [List.map_append, hns, hms, ← List.range'_append, Nat.one_mul]

/-- An element is numbered before what stands below it. -/
theorem Numbered.element {next free : Nat} {children : List Node} (name : String) (attributes : List Attribute)
    (h : Numbered (next + 1) free (children.flatMap Node.elements)) :
    Numbered next free (Node.element ⟨next, name, attributes⟩ children).elements := by
  obtain ⟨count, hchildren, rfl⟩ := h
  refine ⟨count + 1, ?_, by omega⟩
  rw [Node.elements_element, List.map_cons, hchildren]
  rfl

theorem Numbered.ascending {next free : Nat} {ns : List Node} (h : Numbered next free ns) :
    Node.Ascending ns := by
  obtain ⟨count, hns, -⟩ := h
  have hlt : (ns.map Node.position).Pairwise (· < ·) := hns ▸ List.pairwise_lt_range' 1
  exact List.pairwise_map.mp hlt

variable (a : Arena)

theorem numbered_trees {fuel : Nat}
    (htree : ∀ next n, Numbered next (a.tree next fuel n).2
      ((a.tree next fuel n).1.toList.flatMap Node.elements))
    (next : Nat) (ns : List Nat) :
    Numbered next (a.trees next fuel ns).2 ((a.trees next fuel ns).1.flatMap Node.elements) := by
  induction ns generalizing next with
  | nil =>
    rw [trees]
    exact .nil next
  | cons n ns ih =>
    have hn := htree next n
    rw [trees]
    generalize a.tree next fuel n = read at hn
    obtain ⟨_ | node, free⟩ := read
    · exact hn.append (ih free)
    · have happend := hn.append (ih free)
      rwa [Option.toList_some, List.flatMap_singleton] at happend

theorem numbered_tree (next fuel n : Nat) :
    Numbered next (a.tree next fuel n).2 ((a.tree next fuel n).1.toList.flatMap Node.elements) := by
  induction fuel generalizing next n with
  | zero =>
    rw [tree]
    exact .nil next
  | succ fuel ih =>
    rw [tree]
    split
    · next name attributes _ children _ =>
      have hbelow := (a.numbered_trees ih (next + 1) children.toList).element name.label attributes
      rwa [← List.flatMap_singleton Node.elements] at hbelow
    · exact .nil next
    · exact .nil next

end Arena

namespace Document

variable {d : Document} {e f n : Node}

/-- A document whose elements are listed in the order of their numbers. -/
def Ordered (d : Document) : Prop := Node.Ascending d.elements

theorem ordered_parse (text : String) : (parse text).Ordered := by
  show Node.Ascending (rootOf _).elements
  generalize (Builder.build (prepareText text.toList)).arena = a
  have htrees := (a.numbered_trees (fun next n => a.numbered_tree next (a.size + 1) n) 0
    (a.children 0).toList).ascending
  unfold rootOf
  cases hroot : (a.trees 0 (a.size + 1) (a.children 0).toList).1.find? _ with
  | none => exact List.pairwise_singleton ..
  | some root =>
    have hstretch := List.infix_flatMap_of_mem (List.mem_of_find?_eq_some hroot) Node.elements
    exact htrees.sublist hstretch.sublist

/-! ### Elements of a name -/

theorem mem_findAll_iff {tag : String} :
    n ∈ d.findAll tag ↔ n.IsElement ∧ (n = d.root ∨ n.Below d.root) ∧ n.name = tag.toLower := by
  rw [findAll, List.mem_filter, beq_iff_eq, elements, Node.mem_elements_iff, and_assoc]

theorem mem_findWithin_iff {tag : String} :
    n ∈ findWithin e tag ↔ n.IsElement ∧ n.Below e ∧ n.name = tag.toLower := by
  rw [findWithin, List.mem_filter, beq_iff_eq, Node.mem_innerElements_iff, and_assoc]

theorem mem_elements_of_findAll {tag : String} (h : e ∈ d.findAll tag) : e ∈ d.root.elements :=
  (List.mem_filter.mp h).1

/-- What is found below an element of a document is a stretch of what is found in the document. -/
theorem infix_findWithin (h : e ∈ d.root.elements) (tag : String) : findWithin e tag <:+: d.findAll tag :=
  (Node.infix_innerElements h).filter _

/-- What is found below two elements of a document is nested or apart. -/
theorem findWithin_nested (hd : d.Ordered) (he : e ∈ d.root.elements) (hf : f ∈ d.root.elements)
    (tag : String) :
    findWithin e tag <:+: findWithin f tag ∨ findWithin f tag <:+: findWithin e tag ∨
      (findWithin e tag).Disjoint (findWithin f tag) := by
  have hinner {e f : Node} (hf : f ∈ d.root.elements) (h : e ∈ f.elements) :
      findWithin e tag <:+: findWithin f tag := by
    rw [Node.elements_of_mem hf] at h
    rcases List.mem_cons.mp h with rfl | h
    · exact List.infix_rfl
    · exact (Node.infix_innerElements_inner h).filter _
  rcases Node.nested_or_apart hd.nodup he hf with h | h | h
  · exact .inl (hinner hf h)
  · exact .inr (.inl (hinner he h))
  · refine .inr (.inr fun n hne hnf => h (a := n) ?_ ?_)
    · rw [Node.elements_of_mem he]
      exact List.mem_cons_of_mem _ (List.mem_filter.mp hne).1
    · rw [Node.elements_of_mem hf]
      exact List.mem_cons_of_mem _ (List.mem_filter.mp hnf).1

theorem findFirst_eq_some_iff {tag key value : String} : d.findFirst tag key value = some n ↔
    ∃ before after, d.findAll tag = before ++ n :: after ∧ n.attribute? key = some value ∧
      ∀ m ∈ before, m.attribute? key ≠ some value := by
  rw [findFirst, List.find?_eq_some_iff_append]
  constructor
  · rintro ⟨hn, before, after, h, hbefore⟩
    exact ⟨before, after, h, beq_iff_eq.mp hn, fun m hm => by simpa using hbefore m hm⟩
  · rintro ⟨before, after, h, hn, hbefore⟩
    exact ⟨beq_iff_eq.mpr hn, before, after, h, fun m hm => by simpa using hbefore m hm⟩

theorem findFirst_eq_none_iff {tag key value : String} : d.findFirst tag key value = none ↔
    ∀ m ∈ d.findAll tag, m.attribute? key ≠ some value := by
  rw [findFirst, List.find?_eq_none]
  exact forall₂_congr fun m _ => not_congr beq_iff_eq

theorem contains_iff {tag : String} : d.contains tag = true ↔ 0 < d.count tag := decide_eq_true_iff

end Document

/-! ### Names in any case -/

theorem toLower_eq_of_sameName {a b : String} (h : SameName a b) : a.toLower = b.toLower := by
  have hlower (s : String) : s.toLower.toList = s.toList.map Char.toLower := String.toList_map
  rw [← String.toList_inj, hlower, hlower]
  exact sameName_iff.mp h

theorem Node.attribute?_congr {key key' : String} (h : SameName key key') (n : Node) :
    n.attribute? key = n.attribute? key' := by
  rw [attribute?, attribute?, toLower_eq_of_sameName h]

namespace Document

/-- Questions that ask for the same under two names of elements and of attributes. -/
structure SameAnswers (d : Document) (tag tag' key key' : String) : Prop where
  all : d.findAll tag = d.findAll tag'
  within : ∀ e, findWithin e tag = findWithin e tag'
  count : d.count tag = d.count tag'
  contains : d.contains tag = d.contains tag'
  value : ∀ n : Node, n.attribute? key = n.attribute? key'
  first : ∀ value, d.findFirst tag key value = d.findFirst tag' key' value

theorem sameAnswers (d : Document) {tag tag' key key' : String} (htag : SameName tag tag')
    (hkey : SameName key key') : SameAnswers d tag tag' key key' := by
  have hall : d.findAll tag = d.findAll tag' := by
    rw [findAll, findAll, toLower_eq_of_sameName htag]
  have hcount : d.count tag = d.count tag' := congrArg List.length hall
  refine ⟨hall, fun e => ?_, hcount, ?_, Node.attribute?_congr hkey, fun value => ?_⟩
  · rw [findWithin, findWithin, toLower_eq_of_sameName htag]
  · rw [contains, contains, hcount]
  · simp only [findFirst, hall, Node.attribute?_congr hkey]

/-- **All questions to a document see the same elements.** What is found below an element is every element of
the name that hangs on it at some depth, and nothing else; it is a stretch of what is found in the whole
document, in document order and nothing twice, and for two elements these stretches are nested or apart. The
number of the elements of a name, whether there is one, and the first one with the value of an attribute are
those of the list of all; and the case of ASCII letters in the names that are asked for does not matter. -/
theorem lookups_agree (text : String) :
    let d := parse text
    (∀ s, ∀ e ∈ d.findAll s, ∀ t,
      (∀ n, n ∈ findWithin e t ↔ n.IsElement ∧ n.Below e ∧ n.name = t.toLower) ∧
      findWithin e t <:+: d.findAll t ∧ Node.Ascending (findWithin e t) ∧ (findWithin e t).Nodup ∧
      ∀ f ∈ d.findAll s, findWithin e t <:+: findWithin f t ∨ findWithin f t <:+: findWithin e t ∨
        (findWithin e t).Disjoint (findWithin f t)) ∧
    (∀ t,
      (∀ n, n ∈ d.findAll t ↔ n.IsElement ∧ (n = d.root ∨ n.Below d.root) ∧ n.name = t.toLower) ∧
      Node.Ascending (d.findAll t) ∧ d.count t = (d.findAll t).length ∧
      (d.contains t = true ↔ 0 < d.count t) ∧
      ∀ key value,
        (∀ n, d.findFirst t key value = some n ↔
          ∃ before after, d.findAll t = before ++ n :: after ∧ n.attribute? key = some value ∧
            ∀ m ∈ before, m.attribute? key ≠ some value) ∧
        (d.findFirst t key value = none ↔ ∀ m ∈ d.findAll t, m.attribute? key ≠ some value)) ∧
    ∀ tag tag' key key', SameName tag tag' → SameName key key' → SameAnswers d tag tag' key key' := by
  intro d
  have hd : d.Ordered := ordered_parse text
  refine ⟨fun s e he t => ?scopes, fun t => ?all, fun _ _ _ _ => sameAnswers d⟩
  case scopes =>
    have hstretch := infix_findWithin (mem_elements_of_findAll he) t
    have hascending : Node.Ascending (findWithin e t) :=
      hd.sublist (hstretch.sublist.trans List.filter_sublist)
    exact ⟨fun n => mem_findWithin_iff, hstretch, hascending, hascending.nodup, fun f hf =>
      findWithin_nested hd (mem_elements_of_findAll he) (mem_elements_of_findAll hf) t⟩
  case all =>
    exact ⟨fun n => mem_findAll_iff, hd.sublist List.filter_sublist, rfl, contains_iff,
      fun key value => ⟨fun n => findFirst_eq_some_iff, findFirst_eq_none_iff⟩⟩

/-- In the page of a plain text the body is found below the root, by either spelling of its name. -/
theorem lookups_agree_plain :
    let d := parse "Search"
    ∃ page ∈ d.findAll "HTML", ∃ body, findWithin page "BODY" = [body] ∧ body.Below page ∧
      findWithin page "BODY" <:+: d.findAll "BODY" ∧ SameAnswers d "BODY" "body" "ID" "iD" := by
  intro d
  obtain ⟨content, hd⟩ : ∃ content, d = ⟨plainRoot content⟩ :=
    parse_plain (show '<' ∉ "Search".toList by decide)
  have hhtml : "HTML".toLower = "html" := by decide +kernel
  have hbody : "BODY".toLower = "body" := by decide +kernel
  have hpage : plainRoot content ∈ d.findAll "HTML" := by
    rw [hd, findAll, elements_plain, hhtml]
    exact List.mem_filter.mpr ⟨List.mem_cons_self, rfl⟩
  have hwithin : findWithin (plainRoot content) "BODY" = [.element ⟨2, "body", []⟩ (content.toList.map .text)] := by
    rw [findWithin, hbody]
    cases content <;> rfl
  obtain ⟨hscopes, -, hsame⟩ := lookups_agree "Search"
  obtain ⟨hfound, hstretch, -⟩ := hscopes "HTML" _ hpage "BODY"
  exact ⟨_, hpage, _, hwithin, ((hfound _).mp (hwithin ▸ List.mem_cons_self)).2.1, hstretch,
    hsame "BODY" "body" "ID" "iD" (sameName_iff.mpr (by decide)) (sameName_iff.mpr (by decide))⟩

end Document

end PageAudit.Html
