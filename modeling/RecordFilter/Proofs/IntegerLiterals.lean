import RecordFilter.Proofs.IntegerDoubles
import RecordFilter.Proofs.MemberComparison
import RecordFilter.Sample
/-!
# Integers written as digits

A row of digits is an integer if it fits into 64 bits, and a double otherwise (`IsDigits.readNumber_eq`).
Beside a member that holds an integer the first is compared as an integer, the second as a double
(`compile_smallDigits`, `compile_largeDigits`).  Both are the comparison with the number that the digits
denote, except near `2 ^ 63` (`digits_comparison`).
-/

namespace RecordFilter

open Decimal

/-- `Numeral.toFloat` without an exponent is the double of the digits. -/
private theorem Decimal.Numeral.toFloat_whole {n : Nat} (hn : n ≠ 0) :
    Numeral.toFloat ⟨n, 0⟩ = Float.ofNat n :=
  if_neg hn

/-! ### Rows of digits -/

/-- The text is a row of digits. -/
structure IsDigits (text : String) : Prop where
  ne_nil : text.toList ≠ []
  isDigit : ∀ c ∈ text.toList, c.isDigit = true

namespace IsDigits

variable {text : String}

theorem isWritable (h : IsDigits text) : (Literal.number text).IsWritable :=
  ⟨text.toList, h.ne_nil, h.isDigit, .inl rfl⟩

/-- `IsDigits` texts hold no character that is no digit. -/
private theorem notMem (h : IsDigits text) {c : Char} (hc : c.isDigit = false) : c ∉ text.toList := by
  intro hmem
  rw [h.isDigit c hmem] at hc
  exact nomatch hc

private theorem readNat?_eq (h : IsDigits text) : readNat? text.toList = some (natOfDigits text.toList) := by
  rw [readNat?, List.all_eq_true.mpr h.isDigit, if_pos]
  simpa using h.ne_nil

/-- `IsDigits` texts do not start with another character. -/
private theorem ne_cons (h : IsDigits text) {c : Char} (hc : c.isDigit = false) (cs : List Char) :
    text.toList ≠ c :: cs := fun heq => h.notMem hc (heq ▸ List.mem_cons_self)

/-- `splitSign` finds no sign before digits. -/
private theorem splitSign_eq (h : IsDigits text) : splitSign text.toList = (false, text.toList) := by
  unfold splitSign
  split
  · exact absurd ‹_› (h.ne_cons rfl _)
  · exact absurd ‹_› (h.ne_cons rfl _)
  · rfl

/-- `readInt?` reads the natural number that digits denote. -/
private theorem readInt?_eq (h : IsDigits text) :
    readInt? text.toList = some (natOfDigits text.toList : Int) := by
  unfold readInt?
  split
  · exact absurd ‹_› (h.ne_cons rfl _)
  · exact absurd ‹_› (h.ne_cons rfl _)
  · rw [h.readNat?_eq]
    rfl

/-- `Text.sameWord` takes digits for no word with another character. -/
private theorem sameWord_eq_false (h : IsDigits text) {c : Char} {word : String} (hc : c ∈ word.toList)
    (hdigit : c.isDigit = false) : Text.sameWord text.toList word = false := by
  -- the digits come before the letters that have a case
  have hlower : ∀ d ∈ text.toList, d.toLower = d := by
    intro d hd
    refine dif_neg fun hupper => ?_
    have hnine : d.val ≤ 57 := by simpa using (Bool.and_eq_true_iff.mp (h.isDigit d hd)).2
    have hupper : 65 ≤ d.val := hupper.1
    rw [UInt32.le_iff_toNat_le] at hnine hupper
    exact absurd (Nat.le_trans hupper hnine) (by decide)
  rw [Text.sameWord, List.map_congr_left hlower, List.map_id']
  -- if the texts were the same, the character would be one of the digits
  refine beq_eq_false_iff_ne.mpr fun heq => h.notMem hdigit ?_
  rwa [heq]

/-- `readFloat?` reads digits as the double of the number that they denote. -/
private theorem readFloat?_eq (h : IsDigits text) :
    readFloat? text.toList = some (Numeral.toFloat ⟨natOfDigits text.toList, 0⟩) := by
  -- digits are none of the words
  have hinf : Text.sameWord text.toList "inf" = false :=
    h.sameWord_eq_false (c := 'i') (by decide) rfl
  have hinfinity : Text.sameWord text.toList "infinity" = false :=
    h.sameWord_eq_false (c := 'i') (by decide) rfl
  have hnan : Text.sameWord text.toList "nan" = false :=
    h.sameWord_eq_false (c := 'n') (by decide) rfl
  -- all of the text belongs to the whole part, so neither a point nor an exponent follows
  have htake : text.toList.takeWhile Char.isDigit = text.toList :=
    List.takeWhile_eq_self_iff.mpr h.isDigit
  have hdrop : text.toList.dropWhile Char.isDigit = [] := List.dropWhile_eq_nil_iff.mpr h.isDigit
  have hnumeral : readNumeral? text.toList = some ⟨natOfDigits text.toList, 0⟩ := by
    simp [readNumeral?, htake, hdrop, h.ne_nil, readExponent?]
  simp [readFloat?, h.splitSign_eq, hinf, hinfinity, hnan, hnumeral]

/-- `readNumber` of digits: an integer if it fits into 64 bits, else a double. -/
theorem readNumber_eq (h : IsDigits text) :
    readNumber text =
      if natOfDigits text.toList < 2 ^ 63 then .int (.ofInt (natOfDigits text.toList))
      else .float (Float.ofNat (natOfDigits text.toList)) := by
  -- without a point the integer is tried first
  have hdot : text.toList.contains '.' = false := by
    simpa using h.notMem rfl
  have hmin : Int64.minValue.toInt ≤ (natOfDigits text.toList : Int) :=
    Int.le_trans (by decide) (Int.natCast_nonneg _)
  have hmax : (natOfDigits text.toList : Int) ≤ Int64.maxValue.toInt ↔
      natOfDigits text.toList < 2 ^ 63 := by
    show (natOfDigits text.toList : Int) ≤ 2 ^ 63 - 1 ↔ _
    omega
  simp only [readNumber, hdot, readInt64?, h.readInt?_eq, h.readFloat?_eq, Option.bind_some,
    hmin, hmax, true_and, Bool.false_eq_true, if_false]
  split_ifs with hsmall
  · rfl
  · rw [Decimal.Numeral.toFloat_whole (by omega)]

end IsDigits

/-! ### Comparisons with a row of digits -/

section

variable {schema : Schema} {root : RecordId} {m : Member} {name digits : String}

/-- `compare` leaves an integer beside a member that holds integers as it is. -/
private theorem TypedPlan.compare_integer {op : Comparison} {i : Int64} {offset : Nat}
    {source : Option String} (htype : m.type.required = .int) :
    compare schema op (.ofMember m) ⟨.const (.int i), ⟨.int, false⟩, offset, source⟩ 0 =
      .ok { plan := .compare op (.member .root m.name) (.const (.int i)), type := .bool,
            offset := 0 } := by
  have hbase : (ofMember m).type.base = .int := TypedPlan.ofMember_base htype
  have hconvert : convertConstant schema (.int i) source (ofMember m).type = some (.int i) :=
    convertConstant_self Scalar.noConfusion hbase
  refine compare_const_eq_ok ?_ Scalar.noConfusion hconvert ?_
  · rw [hbase]
    exact BaseType.noConfusion
  · rw [hbase]
    rfl

/-- `compare` brings a member that holds integers to a double beside a double that is no integer. -/
private theorem TypedPlan.compare_double {op : Comparison} {x : Float} {offset : Nat} {source : Option String}
    (htype : m.type.required = .int) (hx : exactInt64? x = none) :
    compare schema op (.ofMember m) ⟨.const (.float x), ⟨.float, false⟩, offset, source⟩ 0 =
      .ok { plan := .compare op (.convert .toFloat (.member .root m.name)) (.const (.float x)),
            type := .bool, offset := 0 } := by
  have hbase : (StaticType.ofDeclared m.type).base = .int := ofMember_base htype
  have hmember : ofMember m =
      { plan := .member .root m.name, type := ⟨.int, (StaticType.ofDeclared m.type).nullable⟩,
        offset := 0 } := by
    rw [ofMember, ← hbase]
  -- the constant stays a double, so it is the member that is converted
  have hcoerce (nullable : Bool) :
      coerceConstant? schema ⟨.const (.float x), ⟨.float, false⟩, offset, source⟩ ⟨.int, nullable⟩ =
        none := by
    show ((exactInt64? x).map Scalar.int).map _ = none
    rw [hx]
    rfl
  have hunify (nullable : Bool) :
      unify? schema ⟨.member .root m.name, ⟨.int, nullable⟩, 0, none⟩
          ⟨.const (.float x), ⟨.float, false⟩, offset, source⟩ =
        some ⟨⟨.convert .toFloat (.member .root m.name), ⟨.float, nullable⟩, 0, none⟩,
          ⟨.const (.float x), ⟨.float, false⟩, offset, source⟩, .float⟩ := by
    rw [unify?, if_neg BaseType.noConfusion, hcoerce]
    rfl
  -- doubles have all operators
  rw [hmember, compare, hunify]
  rfl

/-- `compile` of a comparison with digits compares with what `readNumber` makes of them. -/
private theorem compile_digits {op : Comparison} {plan : Plan} (hname : IsMemberName name)
    (hm : (schema.recordType root).member? name = some m) (hdigits : IsDigits digits)
    (h : TypedPlan.compare schema op (.ofMember m)
        ⟨.const (readNumber digits), (readNumber digits).staticType, 0, some digits⟩ 0 =
      .ok { plan, type := .bool, offset := 0 }) :
    compile schema root (name ++ " " ++ op.symbol ++ " " ++ digits) = .ok ⟨plan⟩ :=
  (compile_memberComparison_iff hname hdigits.isWritable).mpr ⟨m, hm, _, h, rfl⟩

/-- A member that holds an integer is compared with the integer that the digits denote. -/
theorem compile_smallDigits (hname : IsMemberName name)
    (hm : (schema.recordType root).member? name = some m) (htype : m.type.required = .int)
    (hdigits : IsDigits digits) (hsmall : natOfDigits digits.toList < 2 ^ 63) (op : Comparison) :
    compile schema root (name ++ " " ++ op.symbol ++ " " ++ digits) =
      .ok ⟨.compare op (.member .root m.name)
        (.const (.int (.ofInt (natOfDigits digits.toList))))⟩ := by
  refine compile_digits hname hm hdigits ?_
  rw [hdigits.readNumber_eq, if_pos hsmall]
  exact TypedPlan.compare_integer htype

/-- A member that holds an integer is compared as a double with digits beyond the range. -/
theorem compile_largeDigits (hname : IsMemberName name)
    (hm : (schema.recordType root).member? name = some m) (htype : m.type.required = .int)
    (hdigits : IsDigits digits) (hlarge : 2 ^ 63 ≤ natOfDigits digits.toList) (op : Comparison) :
    compile schema root (name ++ " " ++ op.symbol ++ " " ++ digits) =
      .ok ⟨.compare op (.convert .toFloat (.member .root m.name))
        (.const (.float (Float.ofNat (natOfDigits digits.toList))))⟩ := by
  refine compile_digits hname hm hdigits ?_
  rw [hdigits.readNumber_eq, if_neg (Nat.not_lt.mpr hlarge)]
  exact TypedPlan.compare_double htype (exactInt64?_ofNat hlarge)

/-- `holds` of doubles that have an order is decided by it. -/
private theorem Comparison.holds_float {ρ : Type} {op : Comparison} {x y : Float} {order : Ordering}
    (h : compareFloats x y = some order) :
    op.holds (.float x : Value ρ) (.float y) = op.ofOrdering order := by
  have hvalues : compareValues (.float x : Value ρ) (.float y) = some order := h
  unfold holds
  rw [hvalues]
  rfl

/-- Digits beyond the range are compared with the number that they denote, unless that and the integer
both become `2 ^ 63` as doubles. -/
private theorem test_largeDigits {op : Comparison} {n : Nat} (hlarge : 2 ^ 63 ≤ n) {ρ : Type} {host : Host ρ}
    {record : ρ} {i : Int64} (hmember : host.member record m.name = .int i) :
    (Predicate.mk (.compare op (.convert .toFloat (.member .root m.name))
      (.const (.float (Float.ofNat n))))).test host record =
      op.ofOrdering (if 2 ^ 63 - 2 ^ 9 ≤ i.toInt ∧ n ≤ 2 ^ 63 + 2 ^ 10 then .eq else .lt) := by
  show op.holds (host.member record m.name).toFloat (.float (Float.ofNat n)) = _
  rw [hmember]
  exact Comparison.holds_float (compareFloats_int64Float_ofNat i hlarge)

/-- The comparison of an integer with digits is the comparison with the natural number that the digits
denote, however many they are.  Only the numbers from `2 ^ 63` to `2 ^ 63 + 2 ^ 10` equal all of the last
`2 ^ 9` 64-bit integers: digits beyond the range are compared as doubles, and there all of these are
`2 ^ 63`. -/
theorem digits_comparison (hname : IsMemberName name)
    (hm : (schema.recordType root).member? name = some m) (htype : m.type.required = .int)
    (hdigits : IsDigits digits) (op : Comparison) :
    ∃ p, compile schema root (name ++ " " ++ op.symbol ++ " " ++ digits) = .ok p ∧
      ∀ (ρ : Type) (host : Host ρ) (record : ρ) (i : Int64), host.member record m.name = .int i →
        p.test host record = op.ofOrdering
          (if 2 ^ 63 - 2 ^ 9 ≤ i.toInt ∧ 2 ^ 63 ≤ natOfDigits digits.toList ∧
              natOfDigits digits.toList ≤ 2 ^ 63 + 2 ^ 10 then .eq
            else compare i.toInt (natOfDigits digits.toList)) := by
  rcases Nat.lt_or_ge (natOfDigits digits.toList) (2 ^ 63) with hsmall | hlarge
  -- within the range the digits are that very integer
  · refine ⟨_, compile_smallDigits hname hm htype hdigits hsmall op, ?_⟩
    intro ρ host record i hmember
    have hexact : (Int64.ofInt (natOfDigits digits.toList)).toInt = natOfDigits digits.toList :=
      Int64.toInt_ofInt_of_le (by omega) (by omega)
    rw [if_neg (by omega)]
    show op.holds (host.member record m.name) (.int (.ofInt (natOfDigits digits.toList))) = _
    rw [hmember]
    show op.ofOrdering (compare i.toInt (Int64.ofInt (natOfDigits digits.toList)).toInt) = _
    rw [hexact]
  · refine ⟨_, compile_largeDigits hname hm htype hdigits hlarge op, ?_⟩
    intro ρ host record i hmember
    -- beyond the range, the digits come after every 64-bit integer
    have hbefore : compare i.toInt (natOfDigits digits.toList : Int) = .lt :=
      Int.compare_eq_lt.mpr (Int.lt_of_lt_of_le i.toInt_lt (by omega))
    rw [test_largeDigits hlarge hmember, hbefore]
    simp only [hlarge, true_and]

/-- Zeros in front make no difference to an age. -/
theorem digits_comparison_of_age :
    IsMemberName "age" ∧
      (Sample.schema.recordType Sample.personId).member? "age" = some ⟨"Age", .property, .int⟩ ∧
      IsDigits "034" ∧
      ∃ p, compile Sample.schema Sample.personId "age >= 034" = .ok p ∧
        ∀ person : Sample.Person, p.test Sample.host (.person person) =
          Comparison.ge.ofOrdering (compare person.age.toInt 34) := by
  have hname : IsMemberName "age" := IsMemberName.iff_lexeme?.mpr ⟨rfl, rfl⟩
  have hm : (Sample.schema.recordType Sample.personId).member? "age" =
      some ⟨"Age", .property, .int⟩ := rfl
  have hdigits : IsDigits "034" := ⟨by decide, List.all_eq_true.mp rfl⟩
  have hvalue : natOfDigits "034".toList = 34 := rfl
  obtain ⟨p, hp, htest⟩ := digits_comparison hname hm rfl hdigits .ge
  refine ⟨hname, hm, hdigits, p, hp, fun person => ?_⟩
  rw [htest _ Sample.host (.person person) person.age rfl, hvalue, if_neg (by omega)]
  rfl

/-- The largest 64-bit integer equals the number after it. -/
theorem not_forall_digits_comparison :
    ¬ ∀ (schema : Schema) (root : RecordId) (name digits : String) (m : Member) (op : Comparison),
      IsMemberName name → (schema.recordType root).member? name = some m → m.type = .int →
      IsDigits digits →
      ∃ p, compile schema root (name ++ " " ++ op.symbol ++ " " ++ digits) = .ok p ∧
        ∀ (ρ : Type) (host : Host ρ) (record : ρ) (i : Int64), host.member record m.name = .int i →
          p.test host record = op.ofOrdering (compare i.toInt (natOfDigits digits.toList)) := by
  intro h
  let host : Host Unit := ⟨fun _ _ => .int .maxValue, fun _ _ _ => .null⟩
  have hname : IsMemberName "age" := IsMemberName.iff_lexeme?.mpr ⟨rfl, rfl⟩
  have hm : (Sample.schema.recordType Sample.personId).member? "age" =
      some ⟨"Age", .property, .int⟩ := rfl
  have hdigits : IsDigits "9223372036854775808" := ⟨by decide, List.all_eq_true.mp rfl⟩
  have hvalue : natOfDigits "9223372036854775808".toList = 2 ^ 63 := by decide +kernel
  have hlarge : 2 ^ 63 ≤ natOfDigits "9223372036854775808".toList := Nat.le_of_eq hvalue.symm
  obtain ⟨p, hp, htest⟩ := h _ _ "age" "9223372036854775808" _ .eq hname hm rfl hdigits
  rw [compile_largeDigits hname hm rfl hdigits hlarge] at hp
  obtain rfl := Except.ok.inj hp
  -- both sides are `2 ^ 63` as doubles, though the integer is one less
  have hequal := htest Unit host () .maxValue rfl
  rw [test_largeDigits hlarge rfl, hvalue] at hequal
  exact absurd hequal (by decide)

end

end RecordFilter
