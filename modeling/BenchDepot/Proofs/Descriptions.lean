import BenchDepot.Cpu.Topology
import BenchDepot.Proofs.AdHocText

/-!
# What the phrase for a topology tells

The phrase gives the number of the processors, and every other count that is more than one.  No two
of these can be taken for each other: a number ends at the first blank behind it, and what was
counted is told by the first letter of the noun that follows, whether or not the counts before it
are mentioned.  So a phrase tells every count but those that it leaves out, and of these that they
are one at most.

* `count_append_eq_iff` — a number and what stands behind its blank;
* `mentions_eq_iff` — any counts that are mentioned only when they are more than one;
* `describe_eq_iff` — all topologies.
-/

namespace BenchDepot.Cpu.Topology

/-- The counts that are mentioned only when they are more than one, each with its noun. -/
def optional : List (String × (Topology → Int64)) :=
  [("cores", cores), ("threads", threads), ("NUMA nodes", numaNodes)]

/-- What some counts of a topology add to its phrase. -/
def mentions (counts : List (String × (Topology → Int64))) (t : Topology) : List Char :=
  counts.flatMap fun c => (phrase (c.2 t) c.1).toList

/-- Two counts of which a phrase tells the same: they are equal, or neither is more than one. -/
def Alike (m n : Int64) : Prop :=
  m = n ∨ (m ≤ 1 ∧ n ≤ 1)

variable {m n : Int64} {noun : String} {cs ds : List Char}

/-! ## Numbers -/

/-- A number is a minus sign or none, and digits. -/
theorem toList_count (n : Int64) : (count n).toList =
    (if 0 ≤ n.toInt then [] else ['-']) ++ Nat.toDigits 10 n.toInt.natAbs := by
  rw [count, Int.toString_eq_repr, Int.repr_eq_if]
  split
  · next hsign =>
    rw [Nat.toList_repr, List.nil_append, ← Int.toNat_of_nonneg hsign, Int.natAbs_natCast]
    rfl
  · next hsign =>
    have habs : (-n.toInt).toNat = n.toInt.natAbs := by omega
    rw [String.toList_append, Nat.toList_repr, habs]
    rfl

theorem notMem_digits {c : Char} (hc : c.isDigit = false) (k : Nat) : c ∉ Nat.toDigits 10 k := by
  intro hmem
  rw [AdHoc.isDigit_of_mem_toDigits hmem] at hc
  cases hc

theorem blank_notMem_count (n : Int64) : ' ' ∉ (count n).toList := by
  rw [toList_count, List.mem_append]
  rintro (hsign | hdigit)
  · split at hsign <;> simp at hsign
  · exact notMem_digits rfl _ hdigit

/-- A number is told by its digits. -/
theorem eq_of_digits {j k : Nat} (h : Nat.toDigits 10 j = Nat.toDigits 10 k) : j = k := by
  rw [← Nat.ofDigitChars_ten_toDigits (n := j), h, Nat.ofDigitChars_ten_toDigits]

theorem count_injective (h : (count m).toList = (count n).toList) : m = n := by
  apply Int64.toInt_inj.mp
  rw [toList_count, toList_count] at h
  -- no digit can be taken for a sign
  by_cases hm : 0 ≤ m.toInt <;> by_cases hn : 0 ≤ n.toInt
  · simp only [if_pos hm, if_pos hn, List.nil_append] at h
    have habs := eq_of_digits h
    omega
  · simp only [if_pos hm, if_neg hn, List.nil_append, List.singleton_append] at h
    exact absurd (h ▸ List.mem_cons_self) (notMem_digits (c := '-') rfl m.toInt.natAbs)
  · simp only [if_neg hm, if_pos hn, List.nil_append, List.singleton_append] at h
    exact absurd (h ▸ List.mem_cons_self) (notMem_digits (c := '-') rfl n.toInt.natAbs)
  · simp only [if_neg hm, if_neg hn, List.singleton_append, List.cons.injEq, true_and] at h
    have habs := eq_of_digits h
    omega

/-- What stands on the two sides of the first blank is told by the whole. -/
theorem append_blank_inj {first second : List Char} (hfirst : ' ' ∉ first) (hsecond : ' ' ∉ second)
    (h : first ++ ' ' :: cs = second ++ ' ' :: ds) : first = second ∧ cs = ds := by
  have hpieces := congrArg (Text.pieces ' ') h
  rw [Text.pieces_append_cons hfirst, Text.pieces_append_cons hsecond, List.cons.injEq] at hpieces
  rw [hpieces.1] at h
  exact ⟨hpieces.1, (List.cons.injEq ..).mp (List.append_cancel_left h) |>.2⟩

/-- A number and what stands behind its blank are told by the whole. -/
theorem count_append_eq_iff :
    (count m).toList ++ ' ' :: cs = (count n).toList ++ ' ' :: ds ↔ m = n ∧ cs = ds := by
  constructor
  · intro h
    obtain ⟨hcount, hrest⟩ := append_blank_inj (blank_notMem_count m) (blank_notMem_count n) h
    exact ⟨count_injective hcount, hrest⟩
  · rintro ⟨rfl, rfl⟩
    rfl

/-! ## Counts that may be left out -/

theorem phrase_of_lt (h : 1 < n) (noun : String) :
    (phrase n noun).toList = ';' :: ' ' :: ((count n).toList ++ ' ' :: noun.toList) := by
  rw [phrase, if_pos h, String.toList_append, String.toList_append, String.toList_append,
    List.append_assoc, List.append_assoc]
  rfl

theorem phrase_of_le (h : ¬1 < n) (noun : String) : (phrase n noun).toList = [] := by
  rw [phrase, if_neg h]
  rfl

/-- What begins with a mention of one count mentions that count. -/
theorem exists_of_mentions_eq {counts : List (String × (Topology → Int64))} {t : Topology}
    (h : mentions counts t = ';' :: ' ' :: ((count n).toList ++ ' ' :: cs)) :
    ∃ c ∈ counts, ∃ rest, cs = c.1.toList ++ rest := by
  induction counts with
  | nil => cases h
  | cons c counts ih =>
      rw [mentions, List.flatMap_cons] at h
      by_cases hlt : 1 < c.2 t
      · rw [phrase_of_lt hlt, List.cons_append, List.cons_append, List.append_assoc,
          List.cons_append] at h
        simp only [List.cons.injEq, true_and, count_append_eq_iff] at h
        exact ⟨c, List.mem_cons_self, _, h.2.symm⟩
      · rw [phrase_of_le hlt, List.nil_append] at h
        obtain ⟨other, hother, hrest⟩ := ih h
        exact ⟨other, List.mem_cons_of_mem c hother, hrest⟩

/-- The first letter of a text is that of its first part. -/
theorem head?_append_of_ne (h : noun ≠ "") (rest : List Char) :
    (noun.toList ++ rest).head? = noun.toList.head? := by
  have hne : noun.toList ≠ [] := mt String.toList_eq_nil_iff.mp h
  rw [List.head?_append_of_ne_nil _ hne]

/-- A count that is mentioned cannot be taken for one that comes later, because their nouns begin
with different letters. -/
theorem mentions_ne {counts : List (String × (Topology → Int64))} {t : Topology}
    (hnoun : noun ≠ "") (hother : ∀ c ∈ counts, c.1 ≠ "" ∧ c.1.toList.head? ≠ noun.toList.head?)
    (rest : List Char) (hlt : 1 < n) : mentions counts t ≠ (phrase n noun).toList ++ rest := by
  intro h
  rw [phrase_of_lt hlt, List.cons_append, List.cons_append, List.append_assoc,
    List.cons_append] at h
  obtain ⟨c, hc, more, hmore⟩ := exists_of_mentions_eq h
  obtain ⟨hne, hletter⟩ := hother c hc
  have hheads := congrArg List.head? hmore
  rw [head?_append_of_ne hnoun, head?_append_of_ne hne] at hheads
  exact hletter hheads.symm

/-- Whatever is counted, mentions of it tell every count but those that are left out, if the nouns
begin with different letters. -/
theorem mentions_eq_iff {counts : List (String × (Topology → Int64))} {a b : Topology}
    (hne : ∀ c ∈ counts, c.1 ≠ "")
    (hletters : counts.Pairwise fun c d => d.1.toList.head? ≠ c.1.toList.head?) :
    mentions counts a = mentions counts b ↔ ∀ c ∈ counts, Alike (c.2 a) (c.2 b) := by
  induction counts with
  | nil => simp [mentions]
  | cons c counts ih =>
      obtain ⟨hletter, hletters⟩ := List.pairwise_cons.mp hletters
      obtain ⟨hnoun, hne⟩ := List.forall_mem_cons.mp hne
      have hrest := ih hne hletters
      have hlater : ∀ d ∈ counts, d.1 ≠ "" ∧ d.1.toList.head? ≠ c.1.toList.head? :=
        fun d hd => ⟨hne d hd, hletter d hd⟩
      have hcons : ∀ t, mentions (c :: counts) t =
          (phrase (c.2 t) c.1).toList ++ mentions counts t := fun t => List.flatMap_cons
      rw [hcons, hcons, List.forall_mem_cons, ← hrest, Alike]
      by_cases ha : 1 < c.2 a <;> by_cases hb : 1 < c.2 b
      · have hle : ¬(c.2 a ≤ 1 ∧ c.2 b ≤ 1) := fun h => Int64.not_le.mpr ha h.1
        rw [phrase_of_lt ha, phrase_of_lt hb]
        simp only [List.cons_append, List.append_assoc, List.cons.injEq, true_and,
          count_append_eq_iff, List.append_cancel_left_eq, hle, or_false]
      · have hdiffer : ¬(c.2 a = c.2 b ∨ (c.2 a ≤ 1 ∧ c.2 b ≤ 1)) := by
          rintro (heq | hle)
          · exact hb (heq ▸ ha)
          · exact Int64.not_le.mpr ha hle.1
        rw [phrase_of_le hb, List.nil_append]
        simp only [hdiffer, false_and, iff_false]
        exact (mentions_ne hnoun hlater _ ha).symm
      · have hdiffer : ¬(c.2 a = c.2 b ∨ (c.2 a ≤ 1 ∧ c.2 b ≤ 1)) := by
          rintro (heq | hle)
          · exact ha (heq ▸ hb)
          · exact Int64.not_le.mpr hb hle.2
        rw [phrase_of_le ha, List.nil_append]
        simp only [hdiffer, false_and, iff_false]
        exact mentions_ne hnoun hlater _ hb
      · have hboth : c.2 a ≤ 1 ∧ c.2 b ≤ 1 := ⟨Int64.not_lt.mp ha, Int64.not_lt.mp hb⟩
        rw [phrase_of_le ha, phrase_of_le hb, List.nil_append, List.nil_append]
        simp only [hboth, and_self, or_true, true_and]

/-! ## Whole phrases -/

theorem toList_describe (t : Topology) : t.describe.toList = (count t.cpus).toList ++
    ' ' :: ((if 1 < t.cpus then "CPUs" else "CPU").toList ++ mentions optional t) := by
  have hunit : (if 1 < t.cpus then " CPUs" else " CPU").toList =
      ' ' :: (if 1 < t.cpus then "CPUs" else "CPU").toList := by
    split <;> rfl
  simp only [describe, cpuPhrase, mentions, optional, String.toList_append, hunit,
    List.flatMap_cons, List.flatMap_nil, List.append_assoc, List.cons_append, List.append_nil]

/-- Two topologies have the same phrase exactly if they have the same number of processors, and
each of their other counts is the same or, in both, one at most. -/
theorem describe_eq_iff (a b : Topology) : a.describe = b.describe ↔
    a.cpus = b.cpus ∧ Alike a.cores b.cores ∧ Alike a.threads b.threads ∧
      Alike a.numaNodes b.numaNodes := by
  have hmentions : mentions optional a = mentions optional b ↔
      Alike a.cores b.cores ∧ Alike a.threads b.threads ∧ Alike a.numaNodes b.numaNodes := by
    rw [mentions_eq_iff (by decide) (by decide)]
    simp [optional]
  rw [← String.toList_inj, toList_describe, toList_describe, count_append_eq_iff, ← hmentions]
  constructor
  · rintro ⟨hcpus, hrest⟩
    rw [hcpus] at hrest
    exact ⟨hcpus, List.append_cancel_left hrest⟩
  · rintro ⟨hcpus, hrest⟩
    rw [hcpus, hrest]
    exact ⟨rfl, rfl⟩

/-- A count that is left out may be any that is one at most, and the one behind it still has its
noun. -/
example : (⟨0, -7, 32, 1⟩ : Topology).describe = "0 CPU; 32 threads" ∧
    (⟨0, 1, 32, 0⟩ : Topology).describe = "0 CPU; 32 threads" := by decide

end BenchDepot.Cpu.Topology
