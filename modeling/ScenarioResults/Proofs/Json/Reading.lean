import ScenarioResults.Proofs.Json.Compact

/-!
# A text is read in one way

The tokens of a tree are the only ones that build it (`ofTokens?_eq_some_iff`), and a text that is read
as a tree is scanned into these tokens wherever it stands (`ofText?_eq_some_iff`). So a text keeps its
meaning as a part of a longer one.
-/

namespace ScenarioResults.Json

/-! ### Tokens that came before -/

/-- The same place in a text, with other tokens before those that were read. -/
def Scan.after (before : List Token) (scan : Scan) : Scan := ⟨scan.tokens ++ before, scan.position⟩

namespace Token

variable {text : List Char} {tokens : List Token}

theorem start_after (before : List Token) (tokens : List Token) (c : Char) :
    start (tokens ++ before) c = (start tokens c).after before := by
  unfold start
  split
  · rfl
  split
  · rfl
  split <;> rfl

/-- What a character does to a scan does not depend on the tokens that came before. -/
theorem step_after (before : List Token) (scan : Scan) (c : Char) :
    step (scan.after before) c = (step scan c).map (Scan.after before) := by
  obtain ⟨tokens, position⟩ := scan
  cases position with
  | between => exact congrArg some (start_after before tokens c)
  | word letters =>
    simp only [step, Scan.after]
    split
    · rw [Option.map_map]
      exact congrArg (Option.map · _) (funext fun token => start_after before (token :: tokens) c)
    · rfl
  | string pieces =>
    simp only [step, Scan.after]
    split
    · rfl
    split
    · rfl
    split <;> rfl
  | escape pieces =>
    simp only [step, Scan.after]
    split
    · rfl
    · rw [Option.map_map]
      rfl
  | unit pieces value missing =>
    simp only [step, Scan.after]
    rw [Option.map_map]
    refine congrArg (Option.map · _) (funext fun digit => ?_)
    simp only [Function.comp_apply]
    split <;> rfl

theorem foldlM_after (before : List Token) (scan : Scan) (text : List Char) :
    text.foldlM step (scan.after before) = (text.foldlM step scan).map (Scan.after before) := by
  induction text generalizing scan with
  | nil => rfl
  | cons c rest ih =>
    rw [List.foldlM_cons, List.foldlM_cons, step_after]
    cases step scan c with
    | none => rfl
    | some next => exact ih next

theorem ended?_after (before : List Token) (scan : Scan) :
    (scan.after before).ended? = scan.ended?.map (· ++ before) := by
  obtain ⟨tokens, position⟩ := scan
  cases position with
  | word letters =>
    simp only [Scan.ended?, Scan.after, Option.map_map]
    rfl
  | between | string | escape | unit => rfl

/-- A text that is scanned by itself is scanned alike wherever it begins a token. -/
theorem scans_of_scan? (read : scan? text = some tokens) : Scans text tokens := by
  intro before
  obtain ⟨final, scanned, finished⟩ := Option.bind_eq_some_iff.mp read
  rw [finish_eq] at finished
  obtain ⟨ended, done, rfl⟩ := Option.map_eq_some_iff.mp finished
  refine ⟨final.after before, ?_, ?_⟩
  · have placed := foldlM_after before ⟨[], .between⟩ text
    rw [scanned] at placed
    exact placed
  · rw [ended?_after, done, List.reverse_reverse]
    rfl

end Token

/-! ### The tokens of a build -/

namespace Tree

/-- Items, each with the comma after it. -/
def itemsThen (items : List Tree) : List Token := items.flatMap fun tree => tree.tokens ++ [.comma]

/-- Members, each with the comma after it. -/
def membersThen (members : List (Option String × Tree)) : List Token :=
  members.flatMap fun member => .string member.1 :: .colon :: (member.2.tokens ++ [.comma])

theorem itemTokens_concat (items : List Tree) (last : Tree) :
    itemTokens (items ++ [last]) = itemsThen items ++ last.tokens := by
  induction items with
  | nil => rfl
  | cons tree rest ih =>
    have more : itemTokens (tree :: (rest ++ [last])) =
        tree.tokens ++ .comma :: itemTokens (rest ++ [last]) := by
      cases rest <;> rfl
    rw [List.cons_append, more, ih]
    simp [itemsThen]

theorem memberTokens_concat (members : List (Option String × Tree)) (name : Option String)
    (last : Tree) : memberTokens (members ++ [(name, last)]) =
      membersThen members ++ .string name :: .colon :: last.tokens := by
  induction members with
  | nil => rfl
  | cons member rest ih =>
    obtain ⟨given, tree⟩ := member
    have more : memberTokens ((given, tree) :: (rest ++ [(name, last)])) =
        .string given :: .colon ::
          (tree.tokens ++ .comma :: memberTokens (rest ++ [(name, last)])) := by
      cases rest <;> rfl
    rw [List.cons_append, more, ih]
    simp [membersThen]

end Tree

/-- The tokens from the start of a container to where its next part begins. -/
def Frame.lead : Frame → List Token
  | .array items => .openBracket :: Tree.itemsThen items.reverse
  | .object members name =>
    .openBrace :: (Tree.membersThen members.reverse ++ [.string name, .colon])

def Frame.leads (frames : List Frame) : List Token := frames.reverse.flatMap Frame.lead

theorem Frame.leads_cons (frame : Frame) (frames : List Frame) :
    leads (frame :: frames) = leads frames ++ frame.lead := by
  simp [leads]

namespace Build

open Json.Frame Json.Tree

/-- The tokens have led to the build: there is one case for each thing that may be expected. -/
inductive Reached : List Token → Build → Prop where
  | value (frames : List Frame) : Reached (leads frames) ⟨frames, .value⟩
  | openArray (frames : List Frame) :
    Reached (leads frames ++ [.openBracket]) ⟨.array [] :: frames, .itemOrEnd⟩
  | openObject (frames : List Frame) :
    Reached (leads frames ++ [.openBrace]) ⟨.object [] none :: frames, .nameOrEnd⟩
  | name (members : List (Option String × Tree)) (frames : List Frame) :
    Reached (leads frames ++ .openBrace :: membersThen members.reverse) ⟨frames, .name members⟩
  | colon (members : List (Option String × Tree)) (name : Option String) (frames : List Frame) :
    Reached (leads frames ++ .openBrace :: (membersThen members.reverse ++ [.string name]))
      ⟨frames, .colon members name⟩
  | item (tree : Tree) (items : List Tree) (frames : List Frame) :
    Reached (leads frames ++ .openBracket :: (itemsThen items.reverse ++ tree.tokens))
      ⟨.array (tree :: items) :: frames, .commaOrEnd⟩
  | member (given : Option String) (tree : Tree) (members : List (Option String × Tree))
      (name : Option String) (frames : List Frame) :
    Reached (leads frames ++
        .openBrace :: (membersThen members.reverse ++ .string given :: .colon :: tree.tokens))
      ⟨.object ((given, tree) :: members) name :: frames, .commaOrEnd⟩
  | done (tree : Tree) : Reached tree.tokens ⟨[], .nothing tree⟩

/-- Where a tree may stand its tokens lead to where it is done. -/
theorem reached_close (tree : Tree) (frames : List Frame) :
    Reached (leads frames ++ tree.tokens) (close tree frames) := by
  match frames with
  | [] => exact .done tree
  | .array items :: rest =>
    have reached := Reached.item tree items rest
    rw [leads_cons, lead, List.append_assoc]
    exact reached
  | .object members name :: rest =>
    have reached := Reached.member name tree members name rest
    rw [leads_cons, lead, close]
    simpa using reached

theorem reached_begin {frames : List Frame} {token : Token} {next : Build}
    (begun : begin frames token = some next) : Reached (leads frames ++ [token]) next := by
  cases token with
  | null =>
    cases begun
    exact reached_close .null frames
  | bool b =>
    cases begun
    exact reached_close (.bool b) frames
  | number n =>
    cases begun
    exact reached_close (.number n) frames
  | string s =>
    cases begun
    exact reached_close (.string s) frames
  | openBracket =>
    cases begun
    exact .openArray frames
  | openBrace =>
    cases begun
    exact .openObject frames
  | _ => cases begun

theorem step_firstItem {frames : List Frame} {token : Token} (more : token ≠ .closeBracket) :
    Tree.step ⟨frames, .itemOrEnd⟩ token = begin frames token := by
  cases token with
  | closeBracket => exact (more rfl).elim
  | _ => rfl

theorem Reached.step {spent : List Token} {build next : Build} {token : Token}
    (reached : Reached spent build) (stepped : Tree.step build token = some next) :
    Reached (spent ++ [token]) next := by
  cases reached with
  | value frames => exact reached_begin stepped
  | openArray frames =>
    by_cases ends : token = .closeBracket
    · subst ends
      cases stepped
      simpa [tokens, itemTokens] using reached_close (.array []) frames
    · rw [step_firstItem ends] at stepped
      simpa [leads_cons, lead, itemsThen] using reached_begin stepped
  | openObject frames =>
    cases token with
    | closeBrace =>
      cases stepped
      simpa [tokens, memberTokens] using reached_close (.object []) frames
    | string s =>
      cases stepped
      simpa [membersThen] using Reached.colon [] s frames
    | _ => cases stepped
  | name members frames =>
    cases token with
    | string s =>
      cases stepped
      simpa using Reached.colon members s frames
    | _ => cases stepped
  | colon members name frames =>
    cases token with
    | colon =>
      cases stepped
      simpa [leads_cons, lead] using Reached.value (.object members name :: frames)
    | _ => cases stepped
  | item tree items frames =>
    cases token with
    | comma =>
      cases stepped
      simpa [leads_cons, lead, itemsThen] using Reached.value (.array (tree :: items) :: frames)
    | closeBracket =>
      cases stepped
      have closed := reached_close (.array (tree :: items).reverse) frames
      simpa [tokens, itemTokens_concat] using closed
    | _ => cases stepped
  | member given tree members name frames =>
    cases token with
    | comma =>
      cases stepped
      simpa [membersThen] using Reached.name ((given, tree) :: members) frames
    | closeBrace =>
      cases stepped
      have closed := reached_close (.object ((given, tree) :: members).reverse) frames
      simpa [tokens, memberTokens_concat] using closed
    | _ => cases stepped
  | done tree => cases stepped

theorem Reached.run {spent tokens : List Token} {build final : Build}
    (reached : Reached spent build) (run : tokens.foldlM Tree.step build = some final) :
    Reached (spent ++ tokens) final := by
  induction tokens generalizing spent build with
  | nil =>
    cases run
    simpa using reached
  | cons token rest ih =>
    rw [List.foldlM_cons] at run
    obtain ⟨next, first, others⟩ := Option.bind_eq_some_iff.mp run
    simpa using ih (reached.step first) others

end Build

namespace Tree

variable {text : String} {tree : Tree}

theorem tokens_of_ofTokens? {given : List Token} (built : ofTokens? given = some tree) :
    given = tree.tokens := by
  unfold ofTokens? at built
  split at built
  next frames last run =>
    cases built
    have reached := (Build.Reached.value []).run run
    cases reached with
    | done => rfl
  next => cases built

/-- The tokens of a tree build it, and no others do. -/
theorem ofTokens?_eq_some_iff {given : List Token} :
    ofTokens? given = some tree ↔ given = tree.tokens := by
  constructor
  · exact tokens_of_ofTokens?
  · rintro rfl
    exact ofTokens?_tokens tree

/-- A text is read as a tree if it is scanned into the tokens of the tree, wherever it stands. -/
theorem ofText?_eq_some_iff : ofText? text = some tree ↔ Scans text.toList tree.tokens := by
  constructor
  · intro read
    obtain ⟨given, scanned, built⟩ := Option.bind_eq_some_iff.mp read
    rw [← ofTokens?_eq_some_iff.mp built]
    exact Token.scans_of_scan? scanned
  · intro scans
    rw [ofText?, Token.scan?_of_scans scans, Option.bind_some, ofTokens?_tokens]

end Tree

end ScenarioResults.Json
