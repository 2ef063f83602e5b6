import PageHarvest.Proofs.Failure
import PageHarvest.Yaml.Value

/-!
What escapes the reading of YAML: a character code that is too wide, more collections within one another
than there is room for, and a scalar whose tag or look promises what its text does not hold. Everything
else that is wrong is that the text is not YAML.
-/
namespace PageHarvest.Yaml

/-- A code that is written in a quoted text belongs to no character. -/
def WideCode (f : Failure) : Prop :=
  ∃ n, Escapes (charOfCode n) f

/-- What reading a scalar fails with by its tag, besides that the text is not YAML. -/
inductive ScalarFault : String → Failure → Prop where
  | noNumber {name} (numeric : name = "int" ∨ name = "float") (message : String) :
      ScalarFault name (Cause.badValue message)
  | noCharacter {name} (numeric : name = "int" ∨ name = "float") : ScalarFault name noCharacter
  | hugePower : ScalarFault "float" hugePower
  | noTime (message : String) : ScalarFault "timestamp" (Cause.badValue message)
  | noTimestamp : ScalarFault "timestamp" Cause.noOperation
  | noWord (word : String) : ScalarFault "bool" (Cause.outside (.mk "KeyError") word)

/-- The node holds a scalar with a text that is read by the tag `name`. -/
inductive Node.Holds (name s : String) : Node → Prop where
  | scalar {tag plain} (tagged : scalarTag? tag plain s = some name) : Holds name s (.scalar tag plain s)
  | item {tag items n} (mem : n ∈ items) (inside : Holds name s n) : Holds name s (.sequence tag items)
  | key {tag entries k v} (mem : (k, v) ∈ entries) (inside : Holds name s k) :
      Holds name s (.mapping tag entries)
  | value {tag entries k v} (mem : (k, v) ∈ entries) (inside : Holds name s v) :
      Holds name s (.mapping tag entries)

/-- A scalar in the node is not what its tag says. -/
def Unread (n : Node) (f : Failure) : Prop :=
  ∃ name s, n.Holds name s ∧ scalarOf name s = .error f ∧ ScalarFault name f

/-- What reading a text fails with, besides that it is not YAML. -/
inductive Fault [Stack] (text : List Char) : Failure → Prop where
  | code {f} (wide : WideCode f) : Fault text f
  | deep : Fault text tooDeep
  | scalar {root f} (parsed : Node.ofText text = .ok (some root)) (unread : Unread root f) : Fault text f

@[simp]
theorem within_malformed {α : Type} {P : Failure → Prop} :
    Within P (.error malformed : Except Failure α) :=
  .construction rfl

/-! Texts -/

@[simp]
theorem within_restOfLine (c : Cursor) : Within WideCode c.restOfLine := by
  unfold Cursor.restOfLine
  dsimp only
  split
  · simp
  · split <;> simp

@[simp]
theorem within_charOfCode (n : Nat) : Within WideCode (charOfCode n) :=
  fun _ escapes => ⟨n, escapes⟩

@[simp]
theorem within_quotedBreaks (n : Nat) (breaks : List Char) (c : Cursor) :
    Within WideCode (quotedBreaks n breaks c) := by
  induction n generalizing breaks c with
  | zero => simp [quotedBreaks]
  | succ n ih =>
    unfold quotedBreaks
    dsimp only
    split
    · simp
    · split <;> simp [ih]

@[simp]
theorem within_escape (c : Cursor) : Within WideCode (escape c) := by
  unfold escape
  dsimp only
  split
  · simp
  · split
    · simp
    · split <;> simp
    · simp

theorem within_quotedFrom (double : Bool) (n : Nat) (text : List Char) (c : Cursor) :
    Within WideCode (quotedFrom double n text c) := by
  induction n generalizing text c with
  | zero => simp [quotedFrom]
  | succ n ih =>
    unfold quotedFrom
    split
    · simp
    · simp only [Within.ite_iff]
      refine ⟨fun _ => ih _ _, fun _ => ⟨fun _ => .ok _, fun _ => ⟨fun _ => ?escaped, fun _ =>
        ⟨fun _ => ?gap, fun _ => ih _ _⟩⟩⟩⟩
      case escaped => exact .bind (within_escape _) fun _ => ih _ _
      case gap => split <;> simp [ih]

@[simp]
theorem within_quoted (c : Cursor) : Within WideCode (quoted c) :=
  within_quotedFrom _ _ _ _

@[simp]
theorem within_indentDigit? (c : Cursor) : Within WideCode (indentDigit? c) := by
  simp [indentDigit?]

@[simp]
theorem within_blockHead (c : Cursor) : Within WideCode (blockHead c) := by
  unfold blockHead
  split
  · simp
  · refine .bind (within_indentDigit? c) fun (digit, c) => ?_
    dsimp only
    split <;> simp

@[simp]
theorem within_block (indent : Int) (c : Cursor) : Within WideCode (block indent c) := by
  simp [block]

/-! Tokens -/

@[simp]
theorem within_anchorName (c : Cursor) : Within WideCode (anchorName c) := by
  simp [anchorName]

@[simp]
theorem within_tagHandle (c : Cursor) : Within WideCode (tagHandle c) := by
  simp [tagHandle]

@[simp]
theorem within_unescaped (n : Nat) (cs : List Char) : Within WideCode (unescaped n cs) := by
  induction n generalizing cs with
  | zero => simp [unescaped]
  | succ n ih =>
    unfold unescaped
    split
    · simp
    · dsimp only
      split <;> simp [ih]
    · simp [ih]

@[simp]
theorem within_tagUri (c : Cursor) : Within WideCode (tagUri c) := by
  simp [tagUri]

@[simp]
theorem within_tagToken (c : Cursor) : Within WideCode (tagToken c) := by
  simp [tagToken]

@[simp]
theorem within_digits (c : Cursor) : Within WideCode (digits c) := by
  simp [digits]

@[simp]
theorem within_directive (c : Cursor) : Within WideCode (directive c) := by
  simp [directive]

namespace Scan

@[simp]
theorem within_dropStale (s : Scan) : Within WideCode s.dropStale := by
  simp [dropStale]

@[simp]
theorem within_dropPossible (s : Scan) : Within WideCode s.dropPossible := by
  unfold dropPossible
  split <;> simp

@[simp]
theorem within_savePossible (s : Scan) : Within WideCode s.savePossible := by
  simp [savePossible]

@[simp]
theorem within_boundary (s : Scan) : Within WideCode s.boundary := by
  simp [boundary]

@[simp]
theorem within_flowStart (s : Scan) (t : Token) : Within WideCode (s.flowStart t) := by
  simp [flowStart]

@[simp]
theorem within_flowEnd (s : Scan) (t : Token) : Within WideCode (s.flowEnd t) := by
  simp [flowEnd]

@[simp]
theorem within_openBlock (s : Scan) (start : Token) : Within WideCode (s.openBlock start) := by
  simp [openBlock]

@[simp]
theorem within_entry (s : Scan) : Within WideCode s.entry := by
  simp [entry]

@[simp]
theorem within_explicitKey (s : Scan) : Within WideCode s.explicitKey := by
  simp [explicitKey]

@[simp]
theorem within_valueSign (s : Scan) : Within WideCode s.valueSign := by
  unfold valueSign
  split <;> simp

@[simp]
theorem within_content {read : Cursor → Except Failure (Token × Cursor)}
    (reads : ∀ c, Within WideCode (read c)) (s : Scan) : Within WideCode (s.content read) := by
  simp [content, reads]

@[simp]
theorem within_blockScalar (s : Scan) : Within WideCode s.blockScalar := by
  simp [blockScalar]

@[simp]
theorem within_plainScalar (s : Scan) : Within WideCode s.plainScalar := by
  simp [plainScalar]

@[simp]
theorem within_step (s : Scan) : Within WideCode s.step := by
  simp [step]

@[simp]
theorem within_advance (s : Scan) : Within WideCode s.advance := by
  simp [advance]

/-- The fault at which the reading of tokens stops. -/
theorem escapes_of_all {n : Nat} {s s' : Scan} {f : Failure} (stopped : all n s = (s', some f))
    (other : f.cause.isConstruction = false) : WideCode f := by
  induction n generalizing s with
  | zero =>
    cases stopped
    cases other
  | succ n ih =>
    unfold all at stopped
    split at stopped
    · rename_i failed
      cases stopped
      exact within_advance _ f ⟨failed, other⟩
    · split at stopped
      · cases stopped
      · exact ih stopped

end Scan

theorem wideCode_of_tokens {text : List Char} {f : Failure} (stopped : (tokens text).2 = some f)
    (other : f.cause.isConstruction = false) : WideCode f := by
  unfold tokens at stopped
  split at stopped
  · cases stopped
    cases other
  · exact Scan.escapes_of_all (Prod.ext rfl stopped) other

/-! Nodes -/

namespace Parser

/-- A parser lets nothing escape but the fault after the tokens and the lack of room, and it leaves that
fault where it is. -/
structure Tame {α : Type} (p : Parser α) : Prop where
  fails {s f} : Escapes (p.run s) f → f = tooDeep ∨ s.fault = some f
  keeps {s a s'} : p.run s = .ok (a, s') → s'.fault = s.fault

namespace Tame
variable {α β : Type}

theorem pure (a : α) : Tame (Pure.pure a) := by
  refine ⟨fun escapes => (nomatch escapes.1), ?_⟩
  rintro s b s' ⟨⟩
  rfl

theorem get : Tame (MonadState.get : Parser Parse) := by
  refine ⟨fun escapes => (nomatch escapes.1), ?_⟩
  rintro s b s' ⟨⟩
  rfl

theorem modify {g : Parse → Parse} (keeps : ∀ s, (g s).fault = s.fault) :
    Tame (MonadState.modifyGet fun s => (PUnit.unit, g s) : Parser PUnit) := by
  refine ⟨fun escapes => (nomatch escapes.1), ?_⟩
  rintro s b s' ⟨⟩
  exact keeps s

theorem refuse : Tame (Parser.refuse : Parser α) := by
  refine ⟨fun {s f} escapes => ?_, nofun⟩
  cases escapes.1
  cases escapes.2

theorem tooDeep : Tame (throw Yaml.tooDeep : Parser α) := by
  refine ⟨fun {s f} escapes => ?_, nofun⟩
  cases escapes.1
  exact .inl rfl

theorem bind {p : Parser α} {g : α → Parser β} (first : Tame p) (next : ∀ a, Tame (g a)) :
    Tame (p >>= g) := by
  constructor
  · intro s f escapes
    obtain now | ⟨⟨a, s'⟩, done, later⟩ := (escapes_bind_iff _ _ _).mp escapes
    · exact first.fails now
    · exact first.keeps done ▸ (next a).fails later
  · intro s b s'' done
    obtain ⟨⟨a, s'⟩, before, after⟩ := bind_ok_iff.mp done
    exact ((next a).keeps after).trans (first.keeps before)

theorem ite {c : Prop} [Decidable c] {p q : Parser α} (yes : Tame p) (no : Tame q) :
    Tame (if c then p else q) := by
  split
  · exact yes
  · exact no

end Tame

theorem tame_peek : Tame peek := by
  constructor
  · intro s f escapes
    obtain ⟨tokens, fault, _, _, _, _⟩ := s
    cases tokens with
    | cons t rest => cases escapes.1
    | nil =>
      cases fault with
      | none => cases escapes.1
      | some e =>
        cases escapes.1
        exact .inr rfl
  · intro s t s' done
    obtain ⟨tokens, fault, _, _, _, _⟩ := s
    cases tokens with
    | cons t rest =>
      cases done
      rfl
    | nil =>
      cases fault with
      | none =>
        cases done
        rfl
      | some e => cases done

theorem tame_drop : Tame drop :=
  .modify fun _ => rfl

theorem tame_takeIf (t : Token) : Tame (takeIf t) :=
  tame_peek.bind fun _ => .ite (tame_drop.bind fun _ => .pure _) (.pure _)

theorem tame_take (t : Token) : Tame (take t) :=
  (tame_takeIf t).bind fun _ => .ite .refuse (.pure _)

theorem tame_resolved (handle : Option String) (suffix : String) : Tame (resolved handle suffix) := by
  unfold resolved
  split
  · exact .pure _
  · refine .bind .get fun s => ?_
    split
    · exact .pure _
    · exact .refuse

theorem tame_anchor? : Tame anchor? := by
  refine tame_peek.bind fun next => ?_
  split
  · exact tame_drop.bind fun _ => .pure _
  · exact .pure _

theorem tame_tag? : Tame tag? := by
  refine tame_peek.bind fun next => ?_
  split
  · exact tame_drop.bind fun _ => (tame_resolved _ _).bind fun _ => .pure _
  · exact .pure _

theorem tame_properties : Tame properties := by
  refine tame_anchor?.bind fun anchor => ?_
  split
  · exact tame_tag?.bind fun _ => .pure _
  · exact tame_tag?.bind fun _ => tame_anchor?.bind fun _ => .pure _

theorem tame_announce (anchor : Option String) : Tame (announce anchor) := by
  unfold announce
  split
  · exact .pure _
  · exact .bind .get fun _ => tame_peek.bind fun _ => .ite .refuse (.modify fun _ => rfl)

theorem tame_settle (anchor : Option String) (n : Node) : Tame (settle anchor n) := by
  unfold settle
  split
  · exact .pure _
  · exact .bind (.modify fun _ => rfl) fun _ => .pure _

theorem tame_into {α : Type} {inside : Parser α} (tame : Tame inside) : Tame (into inside) := by
  have deeper : Tame (do
      modify fun s => { s with room := s.room - 1 }
      let read ← inside
      modify fun s => { s with room := s.room + 1 }
      return read) :=
    .bind (.modify fun _ => rfl) fun _ => tame.bind fun _ => .bind (.modify fun _ => rfl) fun _ => .pure _
  exact .bind .get fun _ => .ite (.bind .tooDeep fun _ => deeper) deeper

theorem tame_orEmpty (tag : Option String) (named : Bool) : Tame (orEmpty tag named) :=
  .ite (.pure _) .refuse

/-- The readers of nodes with fuel `n` are tame. -/
structure Nodes (n : Nat) : Prop where
  node block bare : Tame (node block bare n)
  content tag block bare named : Tame (content tag block bare named n)
  nodeBefore ends block bare : Tame (nodeBefore ends block bare n)
  blockItems : Tame (blockItems n)
  bareItems : Tame (bareItems n)
  blockEntries : Tame (blockEntries n)
  flowEntry close : Tame (flowEntry close n)
  flowItems first : Tame (flowItems first n)
  flowEntries first : Tame (flowEntries first n)

theorem tame_nodes (n : Nat) : Nodes n := by
  -- all nine together, since each calls others with one unit less
  induction n with
  | zero => constructor <;> intros <;> exact .refuse
  | succ n ih =>
    constructor
    case node =>
      intro block bare
      refine tame_peek.bind fun next => ?_
      split
      · refine tame_drop.bind fun _ => .bind .get fun _ => .bind .get fun _ => ?_
        split
        · exact .pure _
        · exact .pure _
        · exact .refuse
      · exact tame_properties.bind fun _ => (tame_announce _).bind fun _ =>
          (ih.content _ _ _ _).bind fun _ => tame_settle _ _
    case content =>
      intro tag block bare named
      refine tame_peek.bind fun next => ?_
      split
      · exact tame_drop.bind fun _ => .ite (.pure _) (.pure _)
      · exact tame_into (tame_drop.bind fun _ => (ih.flowItems _).bind fun _ => .pure _)
      · exact tame_into (tame_drop.bind fun _ => (ih.flowEntries _).bind fun _ => .pure _)
      · exact .ite (tame_into (ih.bareItems.bind fun _ => .pure _)) (tame_orEmpty _ _)
      · exact .ite (tame_into (tame_drop.bind fun _ => ih.blockItems.bind fun _ => .pure _)) (tame_orEmpty _ _)
      · exact .ite (tame_into (tame_drop.bind fun _ => ih.blockEntries.bind fun _ => .pure _)) (tame_orEmpty _ _)
      · exact tame_orEmpty _ _
    case nodeBefore =>
      exact fun ends block bare => tame_peek.bind fun _ => .ite (.pure _) (ih.node _ _)
    case blockItems =>
      exact (tame_takeIf _).bind fun _ => .ite
        ((ih.nodeBefore _ _ _).bind fun _ => ih.blockItems.bind fun _ => .pure _)
        ((tame_take _).bind fun _ => .pure _)
    case bareItems =>
      exact (tame_takeIf _).bind fun _ => .ite
        ((ih.nodeBefore _ _ _).bind fun _ => ih.bareItems.bind fun _ => .pure _) (.pure _)
    case blockEntries =>
      have entry (key value : Node) : Tame (do return (key, value) :: (← Parser.blockEntries n)) :=
        ih.blockEntries.bind fun _ => .pure _
      exact (tame_takeIf _).bind fun _ => .ite
        ((ih.nodeBefore _ _ _).bind fun _ => (tame_takeIf _).bind fun _ => .ite
          ((ih.nodeBefore _ _ _).bind fun _ => entry _ _) (.bind (.pure _) fun _ => entry _ _))
        ((tame_take _).bind fun _ => .pure _)
    case flowEntry =>
      intro close
      exact (ih.nodeBefore _ _ _).bind fun _ => (tame_takeIf _).bind fun _ => .ite
        ((ih.nodeBefore _ _ _).bind fun _ => .pure _) (.bind (.pure _) fun _ => .pure _)
    case flowItems =>
      intro first
      have items : Tame (do
          if ← takeIf .key then
            let pair ← into (Parser.flowEntry .flowSequenceEnd n)
            return .mapping none [pair] :: (← Parser.flowItems false n)
          else if ← takeIf .flowSequenceEnd then return []
          else
            let item ← Parser.node false false n
            return item :: (← Parser.flowItems false n)) :=
        (tame_takeIf _).bind fun _ => .ite
          ((tame_into (ih.flowEntry _)).bind fun _ => (ih.flowItems _).bind fun _ => .pure _)
          ((tame_takeIf _).bind fun _ => .ite (.pure _)
            ((ih.node _ _).bind fun _ => (ih.flowItems _).bind fun _ => .pure _))
      refine (tame_takeIf _).bind fun _ => .ite (.pure _) ?_
      exact .ite ((tame_take _).bind fun _ => items) items
    case flowEntries =>
      intro first
      have entries : Tame (do
          if ← takeIf .key then
            let entry ← Parser.flowEntry .flowMappingEnd n
            return entry :: (← Parser.flowEntries false n)
          else if ← takeIf .flowMappingEnd then return []
          else
            let key ← Parser.node false false n
            return (key, .nothing) :: (← Parser.flowEntries false n)) :=
        (tame_takeIf _).bind fun _ => .ite
          ((ih.flowEntry _).bind fun _ => (ih.flowEntries _).bind fun _ => .pure _)
          ((tame_takeIf _).bind fun _ => .ite (.pure _)
            ((ih.node _ _).bind fun _ => (ih.flowEntries _).bind fun _ => .pure _))
      refine (tame_takeIf _).bind fun _ => .ite (.pure _) ?_
      exact .ite ((tame_take _).bind fun _ => entries) entries

theorem tame_directives (seen : Option Nat) (handles : Table String String) (n : Nat) :
    Tame (directives seen handles n) := by
  induction n generalizing seen handles with
  | zero => exact .refuse
  | succ n ih =>
    refine tame_peek.bind fun next => ?_
    split
    · exact tame_drop.bind fun _ => .ite .refuse (ih _ _)
    · exact tame_drop.bind fun _ => .ite .refuse (ih _ _)
    · exact tame_drop.bind fun _ => ih _ _
    · exact .modify fun _ => rfl

theorem tame_skipEnds (n : Nat) : Tame (skipEnds n) := by
  induction n with
  | zero => exact .pure _
  | succ n ih => exact (tame_takeIf _).bind fun _ => .ite ih (.pure _)

theorem tame_document (n : Nat) : Tame (document n) := by
  have ends (root : Option Node) : Tame (do
      skipEnds n
      take .streamEnd
      return root) :=
    (tame_skipEnds n).bind fun _ => (tame_take _).bind fun _ => .pure _
  have root : Tame (some <$> node true false n) :=
    ((tame_nodes n).node true false).bind fun _ => .pure _
  refine tame_peek.bind fun first => .ite (.bind (.pure _) ends) (.ite ?_ (root.bind ends))
  refine (tame_directives _ _ _).bind fun _ => (tame_take _).bind fun _ => tame_peek.bind fun _ => ?_
  exact .ite (.bind (.pure _) ends) (root.bind ends)

end Parser

theorem escapes_ofText [Stack] {text : List Char} {f : Failure} (escapes : Escapes (Node.ofText text) f) :
    WideCode f ∨ f = tooDeep := by
  obtain parsed | ⟨_, -, never⟩ := (escapes_bind_iff _ _ _).mp escapes
  · obtain deep | stopped := (Parser.tame_document _).fails parsed
    · exact .inr deep
    · exact .inl (wideCode_of_tokens stopped escapes.2)
  · exact absurd never (not_escapes_pure _ f)

/-! Scalars -/

section
variable {name : String} (numeric : name = "int" ∨ name = "float")
include numeric

theorem within_inBase (base : Nat) (cs : List Char) : Within (ScalarFault name) (inBase base cs) := by
  unfold inBase
  dsimp only
  split
  · simp
  · exact .error (.noNumber numeric _)

theorem within_decimal (cs : List Char) : Within (ScalarFault name) (decimal cs) := by
  unfold decimal
  split
  · simp
  · dsimp only
    split <;> exact .error (.noNumber numeric _)

theorem within_signed (s : String) : Within (ScalarFault name) (signed s) := by
  unfold signed
  dsimp only
  split
  · exact .error (.noCharacter numeric)
  · simp

theorem within_intOf (s : String) : Within (ScalarFault name) (intOf s) := by
  refine .bind (within_signed numeric s) fun (negative, cs) => ?_
  dsimp only
  split
  · exact .bind (.error (.noCharacter numeric)) fun _ => .ok _
  · exact .bind (within_inBase numeric _ _) fun _ => .ok _
  · exact .bind (within_inBase numeric _ _) fun _ => .ok _
  · exact .ok _
  · exact .bind (within_inBase numeric _ _) fun _ => .ok _
  · exact .bind (.mapM (within_decimal numeric) _) fun _ => .ok _

theorem within_binaryOf (cs : List Char) : Within (ScalarFault name) (binaryOf cs) := by
  have rejected : Within (ScalarFault name) (.error (badNumber cs) : Except Failure Binary64) :=
    .error (.noNumber numeric _)
  unfold binaryOf
  dsimp only
  split
  · simp
  split
  · simp
  split
  · split <;> simp [rejected]
  · exact rejected

end

theorem within_sexagesimal (sum : Binary64) (power : Nat) (parts : List Binary64) :
    Within (ScalarFault "float") (sexagesimal sum power parts) := by
  induction parts generalizing sum power with
  | nil => exact .ok sum
  | cons x rest ih =>
    unfold sexagesimal
    split
    · exact .error .hugePower
    · exact ih _ _

theorem within_floatOf (s : String) : Within (ScalarFault "float") (floatOf s) := by
  have read (cs : List Char) := within_binaryOf (.inr rfl : "float" = "int" ∨ "float" = "float") cs
  refine .bind (within_signed (.inr rfl) _) fun (negative, cs) => ?_
  simp [Within.mapM read, read, within_sexagesimal]

theorem within_timestampOf (s : String) : Within (ScalarFault "timestamp") (timestampOf s) := by
  unfold timestampOf
  split
  · exact .error .noTimestamp
  · split
    · exact .error (.noTime _)
    · simp
  · dsimp only
    split
    · exact .error (.noTime _)
    · split
      · exact .error (.noTime _)
      · simp

theorem within_boolOf (s : String) : Within (ScalarFault "bool") (boolOf s) := by
  simp [boolOf, Within.error, ScalarFault.noWord]

theorem within_bytesOf {P : Failure → Prop} (s : String) : Within P (bytesOf s) := by
  unfold bytesOf
  split <;> simp

theorem within_scalarOf (name s : String) : Within (ScalarFault name) (scalarOf name s) := by
  unfold scalarOf
  split
  · simp
  · exact within_boolOf s
  · exact .map _ (within_intOf (.inl rfl) s)
  · exact .map _ (within_floatOf s)
  · exact within_bytesOf s
  · exact within_timestampOf s
  · simp
  · simp

theorem within_tagged {tag : Option String} {plain : Bool} {name s : String}
    (tagged : scalarTag? tag plain s = some name) :
    Within (Unread (.scalar tag plain s)) (scalarOf name s) :=
  fun f escapes => ⟨name, s, .scalar tagged, escapes.1, within_scalarOf name s f escapes⟩

/-! Values -/

@[simp]
theorem within_mappingOf {P : Failure → Prop} (es : Entries) : Within P (mappingOf es) := by
  simp [mappingOf]

/-- A scalar in one of the nodes is not what its tag says. -/
def UnreadAmong (ns : List Node) (f : Failure) : Prop :=
  ∃ n ∈ ns, Unread n f

/-- A scalar in a key or a value is not what its tag says. -/
def UnreadIn (es : List (Node × Node)) (f : Failure) : Prop :=
  ∃ k v, (k, v) ∈ es ∧ (Unread k f ∨ Unread v f)

theorem UnreadAmong.sequence {ns : List Node} {f : Failure} (among : UnreadAmong ns f)
    (tag : Option String) : Unread (.sequence tag ns) f := by
  obtain ⟨n, mem, name, s, inside, unread⟩ := among
  exact ⟨name, s, .item mem inside, unread⟩

theorem UnreadIn.mapping {es : List (Node × Node)} {f : Failure} (inside : UnreadIn es f)
    (tag : Option String) : Unread (.mapping tag es) f := by
  obtain ⟨k, v, mem, ⟨name, s, inside, unread⟩ | ⟨name, s, inside, unread⟩⟩ := inside
  · exact ⟨name, s, .key mem inside, unread⟩
  · exact ⟨name, s, .value mem inside, unread⟩

theorem UnreadAmong.head {n : Node} {rest : List Node} (f : Failure) (unread : Unread n f) :
    UnreadAmong (n :: rest) f :=
  ⟨n, List.mem_cons_self, unread⟩

theorem UnreadAmong.tail {n : Node} {rest : List Node} (f : Failure) (among : UnreadAmong rest f) :
    UnreadAmong (n :: rest) f := by
  obtain ⟨m, mem, unread⟩ := among
  exact ⟨m, List.mem_cons_of_mem _ mem, unread⟩

theorem UnreadIn.head {k v : Node} {rest : List (Node × Node)} (f : Failure)
    (unread : Unread k f ∨ Unread v f) : UnreadIn ((k, v) :: rest) f :=
  ⟨k, v, List.mem_cons_self, unread⟩

theorem UnreadIn.tail {e : Node × Node} {rest : List (Node × Node)} (f : Failure)
    (inside : UnreadIn rest f) : UnreadIn (e :: rest) f := by
  obtain ⟨k, v, mem, unread⟩ := inside
  exact ⟨k, v, List.mem_cons_of_mem _ mem, unread⟩

mutual

theorem within_value (n : Node) : Within (Unread n) n.value := by
  match n with
  | .scalar tag plain s =>
    simp only [Node.value]
    split
    · exact within_tagged ‹_›
    · simp
  | .sequence tag items =>
    have listed := (within_valuesOf items).mono fun f among => among.sequence tag
    have paired := (within_pairsOf items).mono fun f among => among.sequence tag
    unfold Node.value
    split <;> simp [listed, paired]
  | .mapping tag entries =>
    have read := (within_entriesOf entries).mono fun f inside => inside.mapping tag
    unfold Node.value
    split <;> simp [read]
  | .again sequence => simp [Node.value]

theorem within_valuesOf (ns : List Node) : Within (UnreadAmong ns) (valuesOf ns) := by
  match ns with
  | [] => simp [valuesOf]
  | n :: rest =>
    simp [valuesOf, (within_value n).mono UnreadAmong.head, (within_valuesOf rest).mono UnreadAmong.tail]

theorem within_pairsOf (ns : List Node) : Within (UnreadAmong ns) (pairsOf ns) := by
  match ns with
  | [] => simp [pairsOf]
  | .mapping tag [(k, v)] :: rest =>
    have key : Within (UnreadAmong (.mapping tag [(k, v)] :: rest)) k.value :=
      (within_value k).mono fun f unread => .head f (UnreadIn.mapping (.head f (.inl unread)) tag)
    have value : Within (UnreadAmong (.mapping tag [(k, v)] :: rest)) v.value :=
      (within_value v).mono fun f unread => .head f (UnreadIn.mapping (.head f (.inr unread)) tag)
    simp [pairsOf, key, value, (within_pairsOf rest).mono UnreadAmong.tail]
  | .scalar _ _ _ :: _ => simp [pairsOf]
  | .sequence _ _ :: _ => simp [pairsOf]
  | .mapping _ [] :: _ => simp [pairsOf]
  | .mapping _ (_ :: _ :: _) :: _ => simp [pairsOf]
  | .again _ :: _ => simp [pairsOf]

theorem within_entriesOf (es : List (Node × Node)) : Within (UnreadIn es) (entriesOf es) := by
  match es with
  | [] => simp [entriesOf]
  | (k, v) :: rest =>
    have merged : Within (UnreadIn ((k, v) :: rest)) (mergedOf v) :=
      (within_mergedOf v).mono fun f unread => .head f (.inr unread)
    have key : Within (UnreadIn ((k, v) :: rest)) k.keyValue :=
      (within_keyValue k).mono fun f unread => .head f (.inl unread)
    have value : Within (UnreadIn ((k, v) :: rest)) v.value :=
      (within_value v).mono fun f unread => .head f (.inr unread)
    simp [entriesOf, merged, key, value, (within_entriesOf rest).mono UnreadIn.tail]

theorem within_keyValue (n : Node) : Within (Unread n) n.keyValue := by
  match n with
  | .scalar tag plain s =>
    simp only [Node.keyValue]
    split
    · simp
    · exact within_tagged ‹_›
    · simp
  | .sequence _ _ => simp [Node.keyValue]
  | .mapping _ _ => simp [Node.keyValue]
  | .again _ => simp [Node.keyValue]

theorem within_mergedOf (n : Node) : Within (Unread n) (mergedOf n) := by
  match n with
  | .scalar _ _ _ => simp [mergedOf]
  | .sequence tag items =>
    exact (within_mergedAll items).mono fun f among => among.sequence tag
  | .mapping tag entries =>
    simp [mergedOf, (within_entriesOf entries).mono fun f inside => inside.mapping tag]
  | .again sequence =>
    unfold mergedOf
    split <;> simp

theorem within_mergedAll (ns : List Node) : Within (UnreadAmong ns) (mergedAll ns) := by
  match ns with
  | [] => simp [mergedAll]
  | .mapping tag entries :: rest =>
    have here : Within (UnreadAmong (.mapping tag entries :: rest)) (entriesOf entries) :=
      (within_entriesOf entries).mono fun f inside => .head f (inside.mapping tag)
    simp [mergedAll, here, (within_mergedAll rest).mono UnreadAmong.tail]
  | .scalar _ _ _ :: _ => simp [mergedAll]
  | .sequence _ _ :: _ => simp [mergedAll]
  | .again _ :: _ => simp [mergedAll]

end

section
variable [Stack]

theorem Fault.not_construction {text : List Char} {f : Failure} (fault : Fault text f) :
    f.cause.isConstruction = false := by
  cases fault with
  | code wide =>
    obtain ⟨n, escapes⟩ := wide
    exact escapes.2
  | deep => rfl
  | scalar parsed unread =>
    obtain ⟨name, s, inside, failed, kind⟩ := unread
    cases kind <;> rfl

/-- All that escapes the reading of YAML. -/
theorem escapes_read_iff (text : List Char) (f : Failure) :
    Escapes (read text) f ↔ read text = .error f ∧ Fault text f := by
  constructor
  · intro escapes
    refine ⟨escapes.1, ?_⟩
    obtain now | ⟨root, parsed, later⟩ := (escapes_bind_iff _ _ _).mp escapes
    · obtain wide | rfl := escapes_ofText now
      · exact .code wide
      · exact .deep
    · cases root with
      | none => exact absurd later (not_escapes_pure _ f)
      | some n => exact .scalar parsed (within_value n f later)
  · rintro ⟨failed, fault⟩
    exact ⟨failed, fault.not_construction⟩

end

end PageHarvest.Yaml
