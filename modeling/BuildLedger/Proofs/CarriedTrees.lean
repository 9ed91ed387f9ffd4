import BuildLedger.Proofs.LawfulCodecs
import BuildLedger.Yaml.Conform

/-!
# Nodes that carry a field tree

A node carries a tree when it has the lists and tables of the tree and every scalar is read as what
the tree has in its place. How the scalars are spelled is left open, but a text that would be taken
for something else has to be quoted. Such a node is fitted to every shape that admits the tree, and
the tree comes out, wherever the node stands.
-/
namespace BuildLedger.Yaml

/-- Whether a scalar is read as a tree of one piece. -/
def Scalar.means (scalar : Scalar) : Tree → Bool
  | .null => true
  | .flag value => scalar.isPlain && flag? scalar.text == some value
  | .number value =>
      scalar.isPlain && (natural? (Nat.pow 2 64) scalar.text.toList).map Int.ofNat == some value
  | .text value => scalar.text == value
  | _ => false

/-- Whether a scalar is taken for a missing value where a value may be missing. -/
def Scalar.isMissing (scalar : Scalar) : Bool :=
  scalar.isPlain && (scalar.text.isEmpty || isNothing scalar.text)

def isNull : Tree → Bool
  | .null => true
  | _ => false

mutual

/-- Whether a node has the lists, the tables and the scalars of a tree, and no tags and faults. -/
def carries : Node → Tree → Bool
  | .list none nodes none, .list trees => carriesItems nodes trees
  | .table none entries none, .table trees => carriesEntries entries trees
  | .scalar scalar, tree =>
      scalar.tag.isNone && scalar.isMissing == isNull tree && scalar.means tree
  | _, _ => false

def carriesItems : List Node → List Tree → Bool
  | [], [] => true
  | node :: nodes, tree :: trees => carries node tree && carriesItems nodes trees
  | _, _ => false

/-- A key is a text, however it is spelled. -/
def carriesEntries : List (Node × Node) → List (String × Tree) → Bool
  | [], [] => true
  | (.scalar key, node) :: entries, (name, tree) :: trees =>
      key.text == name && carries node tree && carriesEntries entries trees
  | _, _ => false

end

variable {node : Node} {tree : Tree} {anchored? : Nat → Option Node}

/-! ## Single nodes -/

/-- What a node that carries some tree looks like. -/
inductive Carrier : Node → Tree → Prop
  | scalar {scalar : Scalar} {tree : Tree} (untagged : scalar.tag = none)
      (missing : scalar.isMissing = isNull tree) (meant : scalar.means tree = true) :
      Carrier (.scalar scalar) tree
  | list {nodes : List Node} {trees : List Tree} (items : carriesItems nodes trees = true) :
      Carrier (.list none nodes none) (.list trees)
  | table {entries : List (Node × Node)} {trees : List (String × Tree)}
      (members : carriesEntries entries trees = true) :
      Carrier (.table none entries none) (.table trees)

theorem carrier_of_carries (carried : carries node tree = true) : Carrier node tree := by
  unfold carries at carried
  split at carried
  · exact .list carried
  · exact .table carried
  · simp only [Bool.and_eq_true, Option.isNone_iff_eq_none, beq_iff_eq] at carried
    exact .scalar carried.1.1 carried.1.2 carried.2
  · cases carried

theorem carrier_target (carrier : Carrier node tree) : target anchored? node = node := by
  cases carrier <;> rfl

/-- Where a value may be missing, the missing one is taken for it and no other. -/
theorem carrier_present (carrier : Carrier node tree) (outer : String) :
    isPresent outer node = .ok (!isNull tree) := by
  cases carrier with
  | list items => rfl
  | table members => rfl
  | @scalar scalar tree untagged missing meant =>
      rw [← missing, isPresent, untagged, Scalar.isMissing]
      cases scalar.isPlain <;> simp

theorem carrier_text {value : String} (carrier : Carrier node (.text value)) (expected : String)
    (place : String) : fitText expected place node = .ok value := by
  cases carrier with
  | scalar untagged missing meant =>
      rw [fitText, beq_iff_eq.mp meant]

theorem carrier_flag {value : Bool} (carrier : Carrier node (.flag value)) (place : String) :
    fitFlag place node = .ok (.flag value) := by
  cases carrier with
  | scalar untagged missing meant =>
      simp only [Scalar.means, Bool.and_eq_true, beq_iff_eq] at meant
      simp only [fitFlag, Scalar.isReadAs, meant.1, Bool.true_or, if_true, meant.2]

theorem carrier_whole {width : Width} {value : Int} (held : width.holds value.toNat = true)
    (carrier : Carrier node (.number value)) (place : String) :
    fitWhole width place node = .ok (.number value) := by
  cases carrier with
  | scalar untagged missing meant =>
      simp only [Scalar.means, Bool.and_eq_true, beq_iff_eq] at meant
      obtain ⟨plain, read⟩ := meant
      obtain ⟨size, found, rfl⟩ := Option.map_eq_some_iff.mp read
      have fits : width.holds size = true := held
      simp only [fitWhole, Scalar.isReadAs, plain, Bool.true_or, if_true, found, fits]
      rfl

theorem carrier_choice {names : List String} {name : String} (listed : name ∈ names)
    (carrier : Carrier node (.text name)) (place outer : String) :
    fitChoice names place outer node = .ok (.text name) := by
  cases carrier with
  | scalar untagged missing meant =>
      have same := beq_iff_eq.mp meant
      have local_none : localTag? none = none := rfl
      simp only [fitChoice, untagged, local_none, same, List.contains_iff_mem.mpr listed, if_true]

/-! ## Lists and tables -/

theorem fit_items {fit : String → Node → Except Problem Tree} {nodes : List Node}
    {trees : List Tree} (carried : carriesItems nodes trees = true)
    (each : ∀ tree ∈ trees, ∀ node, carries node tree = true → ∀ place, fit place node = .ok tree)
    (place : String) (index : Nat) : fitItems fit place index nodes = .ok trees := by
  induction nodes generalizing trees index with
  | nil =>
      cases trees with
      | nil => rfl
      | cons tree trees => cases carried
  | cons node nodes ih =>
      cases trees with
      | nil => cases carried
      | cons tree trees =>
          simp only [carriesItems, Bool.and_eq_true] at carried
          have first := each tree List.mem_cons_self node carried.1 (itemPlace place index)
          have others := ih carried.2 (fun tree member => each tree (List.mem_cons_of_mem _ member))
            (index + 1)
          simp only [fitItems, first, others]
          rfl

/-- The first entry of a table that carries some entries, and the other ones. -/
theorem entries_cases {entries : List (Node × Node)} {trees : List (String × Tree)}
    (carried : carriesEntries entries trees = true) :
    (entries = [] ∧ trees = []) ∨
      ∃ key node others name tree rest, entries = (.scalar key, node) :: others ∧
        trees = (name, tree) :: rest ∧ key.text = name ∧ carries node tree = true ∧
        carriesEntries others rest = true := by
  unfold carriesEntries at carried
  split at carried
  · exact Or.inl ⟨rfl, rfl⟩
  · simp only [Bool.and_eq_true, beq_iff_eq] at carried
    exact Or.inr ⟨_, _, _, _, _, _, rfl, rfl, carried.1.1, carried.1.2, carried.2⟩
  · cases carried

theorem fit_entries (anchored? : Nat → Option Node) {fit : String → Node → Except Problem Tree}
    {entries : List (Node × Node)} {trees : List (String × Tree)}
    (carried : carriesEntries entries trees = true)
    (each : ∀ entry ∈ trees, ∀ node, carries node entry.2 = true → ∀ place,
      fit place node = .ok entry.2) (place : String) :
    fitEntries anchored? fit place entries = .ok trees := by
  induction trees generalizing entries with
  | nil =>
      obtain ⟨rfl, _⟩ | ⟨_, _, _, _, _, _, _, absurd, _⟩ := entries_cases carried
      · rfl
      · cases absurd
  | cons entry trees ih =>
      obtain ⟨_, absurd⟩ | ⟨key, node, others, name, tree, rest, rfl, parts, named, first, later⟩ :=
        entries_cases carried
      · cases absurd
      · cases parts
        have own := each (name, tree) List.mem_cons_self node first
          (entryPlace place (.scalar key))
        have rest := ih later fun entry member => each entry (List.mem_cons_of_mem _ member)
        simp only [fitEntries, target, fitText, named, rest, own]
        rfl

/-- Known fields with new names are fitted one by one. -/
theorem fit_fields (anchored? : Nat → Option Node)
    {fit? : String → Option (String → Node → Except Problem Tree)}
    {entries : List (Node × Node)} {trees : List (String × Tree)} {present : List String}
    (carried : carriesEntries entries trees = true) (distinct : (trees.map Prod.fst).Nodup)
    (fresh : ∀ entry ∈ trees, entry.1 ∉ present)
    (each : ∀ entry ∈ trees, ∃ fit, fit? entry.1 = some fit ∧
      ∀ node, carries node entry.2 = true → ∀ place, fit place node = .ok entry.2)
    (place : String) : fitFields anchored? fit? place present entries = .ok trees := by
  induction trees generalizing entries present with
  | nil =>
      obtain ⟨rfl, _⟩ | ⟨_, _, _, _, _, _, _, absurd, _⟩ := entries_cases carried
      · rfl
      · cases absurd
  | cons entry trees ih =>
      obtain ⟨_, absurd⟩ | ⟨key, node, others, name, tree, rest, rfl, parts, named, first, later⟩ :=
        entries_cases carried
      · cases absurd
      · cases parts
        obtain ⟨new, different⟩ := List.nodup_cons.mp distinct
        obtain ⟨fit, known, fits⟩ := each (name, tree) List.mem_cons_self
        have not_yet : present.contains name = false := by
          simpa using fresh (name, tree) List.mem_cons_self
        have own := fits node first (entryPlace place (.scalar key))
        have rest : fitFields anchored? fit? place (name :: present) others = .ok trees := by
          apply ih later different
          · intro other member
            have unseen := fresh other (List.mem_cons_of_mem _ member)
            have apart : other.1 ≠ name := fun same =>
              new (List.mem_map.mpr ⟨other, member, same⟩)
            exact List.not_mem_cons_of_ne_of_not_mem apart unseen
          · exact fun other member => each other (List.mem_cons_of_mem _ member)
        simp only [fitFields, target, fitText, named, bind, Except.bind, known, not_yet, own, rest]
        rfl

/-! ## Shapes -/

theorem fit_field (outer : String) (fields : Fields) (name : String) :
    fitField? anchored? outer fields name = (fields.find? name).map (fit anchored? outer) := by
  induction fields using Fields.find?.induct name with
  | case1 => rfl
  | case2 required shape rest => simp [fitField?, Fields.find?]
  | case3 field required shape rest different ih => simp [fitField?, Fields.find?, different, ih]

/-- A node that carries an admitted tree is fitted to it, by the ways in which a shape admits a
tree. -/
theorem fit_carried (anchored? : Nat → Option Node) {shape : Shape} (admitted : shape.Admits tree)
    (carried : carries node tree = true) (outer place : String) :
    fit anchored? outer shape place node = .ok tree := by
  induction admitted generalizing node outer place with
  | text value =>
      have carrier := carrier_of_carries carried
      rw [fit, carrier_target carrier, carrier_text carrier]
      rfl
  | path value =>
      have carrier := carrier_of_carries carried
      rw [fit, carrier_target carrier, carrier_text carrier]
      rfl
  | flag value =>
      have carrier := carrier_of_carries carried
      rw [fit, carrier_target carrier, carrier_flag carrier]
  | whole positive held =>
      have carrier := carrier_of_carries carried
      rw [fit, carrier_target carrier, carrier_whole held carrier]
  | choice listed =>
      have carrier := carrier_of_carries carried
      rw [fit, carrier_target carrier, carrier_choice listed carrier]
  | absent inner =>
      have carrier := carrier_of_carries carried
      rw [fit, carrier_target carrier, carrier_present carrier]
      rfl
  | @given inner tree inside ih =>
      have carrier := carrier_of_carries carried
      rw [fit, carrier_target carrier, carrier_present carrier]
      cases tree with
      | null => rfl
      | _ => exact ih carried outer place
  | list each ih =>
      cases carrier_of_carries carried with
      | scalar untagged missing meant => cases meant
      | list items =>
          have fitted := fit_items items (fun tree member node holds place' =>
            ih tree member holds place place') place 0
          simp only [fit, target, fitted]
          rfl
  | dictionary each ih =>
      cases carrier_of_carries carried with
      | scalar untagged missing meant => cases meant
      | table members =>
          have fitted := fit_entries anchored? members
            (fun entry member node holds place' => ih entry member holds place place') place
          simp only [fit, target, fitted]
          rfl
  | @record name fields entries distinct known each complete ih =>
      cases carrier_of_carries carried with
      | scalar untagged missing meant => cases meant
      | table members =>
          have fields_fit : ∀ entry ∈ entries, ∃ own, fitField? anchored? place fields entry.1 =
              some own ∧ ∀ node, carries node entry.2 = true → ∀ inside,
                own inside node = .ok entry.2 := by
            intro entry member
            obtain ⟨shape, found⟩ := Option.isSome_iff_exists.mp (known entry member)
            refine ⟨fit anchored? place shape, by rw [fit_field, found, Option.map_some], ?_⟩
            intro node holds inside
            exact ih entry member shape found holds place inside
          have fitted := fit_fields anchored? members distinct (fun _ _ => List.not_mem_nil)
            fields_fit place
          have whole : fields.requiredNames.find? (fun name =>
              !(entries.map Prod.fst).contains name) = none := by
            rw [List.find?_eq_none]
            intro required needed
            simpa using complete required needed
          simp only [fit, target, fitted]
          change completeRecord fields.requiredNames place none entries = _
          rw [completeRecord, whole]
          rfl

end BuildLedger.Yaml
