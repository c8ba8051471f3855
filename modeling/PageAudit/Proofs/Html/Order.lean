import PageAudit.Html.Document
/-!
Document order. The elements of a node are listed by one walk that carries along what comes later. Without
that list they are the node itself and then the elements of its children, one child after the other
(`elements_element`), so those below a node are the ones that hang on it at some depth (`Below`,
`mem_innerElements_iff`). The text of a node is gathered in the same order (`innerText_eq`).

What a document is asked for is found among these elements: all of a name (`findAll_eq`), those of them that list
a token (`findAllWithToken_eq`), or the first one in document order (`First`).
-/
namespace PageAudit.Html

namespace Node

/-- What holds of texts, and of an element if it holds of its children, holds of every node. -/
@[elab_as_elim]
theorem induct {motive : Node → Prop} (text : ∀ s, motive (.text s))
    (element : ∀ e children, (∀ n ∈ children, motive n) → motive (.element e children)) :
    ∀ n, motive n
  | .text s => text s
  | .element e children => element e children fun n _ => induct text element n

/-- The nodes right below a node. -/
def children : Node → List Node
  | .text _ => []
  | .element _ children => children

/-! ### Elements -/

theorem elementsOfThen_eq {ns : List Node} (h : ∀ n ∈ ns, ∀ later, elementsThen later n = n.elements ++ later)
    (later : List Node) : elementsOfThen later ns = ns.flatMap elements ++ later := by
  induction ns with
  | nil => rw [elementsOfThen, List.flatMap_nil, List.nil_append]
  | cons n ns ih =>
    have hrest := ih fun m hm => h m (List.mem_cons_of_mem n hm)
    rw [elementsOfThen, h n (List.mem_cons_self ..), hrest, List.flatMap_cons, List.append_assoc]

theorem elementsThen_eq (n : Node) : ∀ later, elementsThen later n = n.elements ++ later := by
  induction n using induct with
  | text s => exact fun later => rfl
  | element e children ih =>
    intro later
    have hnone : (Node.element e children).elements = .element e children :: elementsOfThen [] children := rfl
    rw [hnone, elementsThen, elementsOfThen_eq ih, elementsOfThen_eq ih, List.append_nil, List.cons_append]

@[simp]
theorem elements_text (s : String) : (Node.text s).elements = [] := rfl

/-- An element comes before all below it, and these come child by child. -/
@[simp]
theorem elements_element (e : Element) (children : List Node) :
    (Node.element e children).elements = .element e children :: children.flatMap elements := by
  have hall := elementsOfThen_eq (fun n (_ : n ∈ children) => elementsThen_eq n) []
  rw [List.append_nil] at hall
  exact congrArg (Node.element e children :: ·) hall

theorem innerElements_eq (n : Node) : n.innerElements = n.children.flatMap elements := by
  cases n with
  | text s => rfl
  | element e children =>
    have hall := elementsOfThen_eq (fun n (_ : n ∈ children) => elementsThen_eq n) []
    rw [List.append_nil] at hall
    exact hall

/-! ### Elements below a node -/

def IsElement : Node → Prop
  | .text _ => False
  | .element _ _ => True

theorem isElement_of_name {n : Node} (h : n.name ≠ "") : n.IsElement := by
  cases n with
  | text s => exact absurd rfl h
  | element e children => trivial

/-- A node below another, at any depth. -/
inductive Below (n : Node) : Node → Prop
  | child {scope : Node} : n ∈ scope.children → Below n scope
  | deeper {scope between : Node} : between ∈ scope.children → Below n between → Below n scope

theorem below_iff {n scope : Node} : n.Below scope ↔ ∃ m ∈ scope.children, n = m ∨ n.Below m := by
  constructor
  · intro h
    cases h with
    | child hn => exact ⟨n, hn, .inl rfl⟩
    | deeper hm hn => exact ⟨_, hm, .inr hn⟩
  · rintro ⟨m, hm, rfl | hn⟩
    · exact .child hm
    · exact .deeper hm hn

theorem mem_elements_iff {n scope : Node} :
    n ∈ scope.elements ↔ n.IsElement ∧ (n = scope ∨ n.Below scope) := by
  induction scope using induct with
  | text s =>
    rw [elements_text]
    refine iff_of_false (List.not_mem_nil) ?_
    rintro ⟨hn, rfl | hbelow⟩
    · exact hn
    · obtain ⟨m, hm, -⟩ := below_iff.mp hbelow
      cases hm
  | element e children ih =>
    have hinner : n ∈ children.flatMap elements ↔ n.IsElement ∧ n.Below (.element e children) := by
      rw [List.mem_flatMap, below_iff]
      constructor
      · rintro ⟨m, hm, hn⟩
        obtain ⟨helement, hn⟩ := (ih m hm).mp hn
        exact ⟨helement, m, hm, hn⟩
      · rintro ⟨helement, m, hm, hn⟩
        exact ⟨m, hm, (ih m hm).mpr ⟨helement, hn⟩⟩
    rw [elements_element, List.mem_cons, hinner, and_or_left]
    refine or_congr_left (and_iff_right_of_imp ?_).symm
    rintro rfl
    trivial

/-- The elements inside a node are those below it. -/
theorem mem_innerElements_iff {n scope : Node} : n ∈ scope.innerElements ↔ n.IsElement ∧ n.Below scope := by
  rw [innerElements_eq, List.mem_flatMap, below_iff]
  constructor
  · rintro ⟨m, hm, hn⟩
    obtain ⟨helement, hn⟩ := mem_elements_iff.mp hn
    exact ⟨helement, m, hm, hn⟩
  · rintro ⟨helement, m, hm, hn⟩
    exact ⟨m, hm, mem_elements_iff.mpr ⟨helement, hn⟩⟩

/-! ### Text -/

mutual

/-- The texts of a node, in document order. -/
def texts : Node → List String
  | .text s => [s]
  | .element _ children => textsOf children

def textsOf : List Node → List String
  | [] => []
  | n :: ns => texts n ++ textsOf ns

end

theorem textOfAfter_eq {ns : List Node} (h : ∀ n ∈ ns, ∀ before, textAfter before n = before ++ String.join n.texts)
    (before : String) : textOfAfter before ns = before ++ String.join (textsOf ns) := by
  induction ns generalizing before with
  | nil => rw [textOfAfter, textsOf, String.join_nil, String.append_empty]
  | cons n ns ih =>
    have hrest := ih fun m hm => h m (List.mem_cons_of_mem n hm)
    rw [textOfAfter, hrest, h n (List.mem_cons_self ..), textsOf, String.join_append, String.append_assoc]

theorem textAfter_eq (n : Node) : ∀ before, textAfter before n = before ++ String.join n.texts := by
  induction n using induct with
  | text s => exact fun before => by rw [textAfter, texts, String.join_cons, String.join_nil, String.append_empty]
  | element e children ih => exact textOfAfter_eq ih

/-- The text of a node is all texts in it, one after the other. -/
theorem innerText_eq (n : Node) : n.innerText = String.join n.texts := by
  rw [innerText, textAfter_eq, String.empty_append]

end Node

namespace Document

variable {d : Document}

/-- The elements of a name, where the name is asked for in small letters. -/
theorem findAll_eq {tag : String} (h : tag.toLower = tag) :
    d.findAll tag = d.elements.filter (·.name == tag) := by
  rw [findAll, h]

theorem count_eq {tag : String} (h : tag.toLower = tag) : d.count tag = d.elements.countP (·.name == tag) := by
  rw [count, findAll_eq h, List.countP_eq_length_filter]

/-- Elements are found by a token among the words of an attribute. -/
theorem findAllWithToken_eq (d : Document) (tag key token : String) : d.findAllWithToken tag key token =
    (d.findAll tag).filter fun n => ∃ value ∈ n.attribute? key, token ∈ Text.words value := by
  refine List.filter_congr fun n _ => ?_
  cases n.attribute? key with
  | none => simp
  | some value => simp

/-- The first element of a document of which something holds. -/
def First (d : Document) (holds : Node → Prop) (n : Node) : Prop :=
  ∃ before after, d.elements = before ++ n :: after ∧ holds n ∧ ∀ m ∈ before, ¬ holds m

theorem find?_eq_some_iff {p : Node → Bool} {n : Node} :
    d.elements.find? p = some n ↔ d.First (p · = true) n := by
  rw [List.find?_eq_some_iff_append, First]
  constructor
  · rintro ⟨hn, before, after, h, hbefore⟩
    exact ⟨before, after, h, hn, fun m hm => by simpa using hbefore m hm⟩
  · rintro ⟨before, after, h, hn, hbefore⟩
    exact ⟨hn, before, after, h, fun m hm => by simpa using hbefore m hm⟩

end Document

end PageAudit.Html
