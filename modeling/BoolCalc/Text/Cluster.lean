import BoolCalc.Text.ClusterClass

/-!
# Clusters

A text falls into clusters, each of which a reader takes for one character. Whether a character
joins the cluster before it is decided by its class and by what the scan has kept of the text
before it. The clusters of a text, one after the other, are the text, and none is empty.
-/

namespace BoolCalc.Text

/-- How much of a conjunct stands before a character. -/
inductive Conjunct where
  | absent
  | consonant
  /-- A consonant and a sign that joins it to the next one. -/
  | linked
deriving DecidableEq, Repr

/-- What the scan keeps of the text before a character. -/
structure ClusterScan where
  /-- The class of the last character. -/
  last : ClusterClass
  /-- Whether the text ends in an odd number of letters of flags. -/
  oddRegional : Bool
  /-- Whether the text ends in a pictograph, with what extends it and at most one joiner. -/
  pictograph : Bool
  conjunct : Conjunct

namespace ClusterScan

/-- The scan before a text: a cluster starts, as it does behind a control. -/
def start : ClusterScan := ⟨.control, false, false, .absent⟩

variable (st : ClusterScan) (c : Char)

/-- How much of a conjunct stands before the character after `c`. -/
def conjunctAfter : Conjunct :=
  if isConsonant c then .consonant
  else if isLinker c && st.conjunct ≠ .absent then .linked
  else
    match ClusterClass.of c with
    | .extending => if c = '\u200c' then .absent else st.conjunct
    | .joiner => st.conjunct
    | _ => .absent

/-- The scan one character further on. -/
def next : ClusterScan :=
  let here := ClusterClass.of c
  let carries := here = .extending || here = .joiner
  { last := here
    oddRegional := here = .regional && !st.oddRegional
    pictograph := isPictograph c || (carries && st.pictograph && st.last ≠ .joiner)
    conjunct := st.conjunctAfter c }

/-- Whether a character joins the cluster before it. -/
def joins : Bool :=
  match st.last, ClusterClass.of c with
  | .control, _ | _, .control => false
  | _, .extending | _, .joiner | _, .spacing | .prepended, _ => true
  | .leading, .leading | .leading, .vowel | .leading, .openSyllable => true
  | .leading, .closedSyllable => true
  | .openSyllable, .vowel | .openSyllable, .trailing | .vowel, .vowel | .vowel, .trailing => true
  | .closedSyllable, .trailing | .trailing, .trailing => true
  | .regional, .regional => st.oddRegional
  | last, _ =>
    (last = .joiner && st.pictograph && isPictograph c) ||
      (st.conjunct = .linked && isConsonant c)

/-- The characters of a text that join the cluster before it, and the clusters behind them. -/
def split (st : ClusterScan) : List Char → List Char × List (List Char)
  | [] => ([], [])
  | c :: cs =>
    let (joined, rest) := split (st.next c) cs
    if st.joins c then (c :: joined, rest) else ([], (c :: joined) :: rest)

end ClusterScan

/-- The clusters of a text. -/
def clusters (cs : List Char) : List (List Char) := (ClusterScan.start.split cs).2

theorem ClusterScan.split_flatten (st : ClusterScan) (cs : List Char) :
    (st.split cs).1 ++ (st.split cs).2.flatten = cs := by
  induction cs generalizing st with
  | nil => rfl
  | cons c cs ih => by_cases h : st.joins c <;> simp [split, h, ih]

theorem ClusterScan.split_start_fst (cs : List Char) : (start.split cs).1 = [] := by
  cases cs <;> simp [split, joins, start]

/-- Nothing of a text is lost. -/
@[simp] theorem clusters_flatten (cs : List Char) : (clusters cs).flatten = cs := by
  have h := ClusterScan.start.split_flatten cs
  rwa [ClusterScan.split_start_fst, List.nil_append] at h

theorem ClusterScan.nil_notMem_split (st : ClusterScan) (cs : List Char) :
    [] ∉ (st.split cs).2 := by
  induction cs generalizing st with
  | nil => simp [split]
  | cons c cs ih => by_cases h : st.joins c <;> simp [split, h, ih]

theorem nil_notMem_clusters (cs : List Char) : [] ∉ clusters cs :=
  ClusterScan.start.nil_notMem_split cs

end BoolCalc.Text
