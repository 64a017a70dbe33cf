import EventFeed.Command.Perform
import EventFeed.Proofs.Client.Exchange
import EventFeed.Proofs.Command.Orders
import EventFeed.Proofs.Environment.Load

/-!
# A named environment file

Words may name an environment file. By then they have been read once, and the usual file has been offered, that
of the working directory or of the nearest directory above that has one: what it sets stays, and what the words
miss without the named file stops the tool before that file is looked at. So the named file stands in for the
usual one exactly if the words can do without it, and the usual one makes no difference to what stands for the
parameters that no word gives.
-/

namespace EventFeed.Command

variable {world : World} {environment : Environment} {words : List String} {path : Path} {found : Found}

/-! ## The usual file -/

/-- No file stands at a path, and this is no reason to give the search up. -/
def LacksFile (world : World) (path : Path) : Prop :=
  world.files path = .error .noSuchFile ∨ ∃ entries, world.files path = .ok (.directory entries)

/-- The file that the search among some paths comes to. -/
def fileAmong (world : World) : List Path → Option Content
  | [] => none
  | path :: others =>
      match world.files path with
      | .ok (.file content) => some content
      | .ok (.directory _) | .error .noSuchFile => fileAmong world others
      | .error _ => none

/-- The environment behind the usual file. -/
def begun (world : World) (environment : Environment) : Environment :=
  match world.directory with
  | .error _ => environment
  | .ok names =>
      match fileAmong world (envFilesFrom names.reverse) with
      | some content => (environment.load content).1
      | none => environment

theorem fileAmong_of_lacks {others : List Path} (lacks : LacksFile world path) :
    fileAmong world (path :: others) = fileAmong world others := by
  rw [fileAmong]
  rcases lacks with missing | ⟨entries, directory⟩
  · rw [missing]
  · rw [directory]

theorem fileAmong_cons_eq_some_iff {others : List Path} {content : Content} :
    fileAmong world (path :: others) = some content ↔
      world.files path = .ok (.file content) ∨ LacksFile world path ∧ fileAmong world others = some content := by
  constructor
  · intro found
    rw [fileAmong] at found
    split at found
    · rename_i held file
      cases found
      exact .inl file
    · rename_i entries directory
      exact .inr ⟨.inr ⟨entries, directory⟩, found⟩
    · rename_i missing
      exact .inr ⟨.inl missing, found⟩
    · cases found
  · rintro (file | ⟨lacks, found⟩)
    · rw [fileAmong, file]
    · rw [fileAmong_of_lacks lacks, found]

/-- The search from a directory upwards comes to the file of the nearest directory that has one, if nothing stops
it on the way. -/
theorem fileAmong_envFilesFrom_iff {inwards : List FileName} {content : Content} :
    fileAmong world (envFilesFrom inwards) = some content ↔
      ∃ outer, outer <:+ inwards ∧ world.files (envFileIn outer.reverse) = .ok (.file content) ∧
        ∀ passed, passed <:+ inwards → outer.length < passed.length → LacksFile world (envFileIn passed.reverse) := by
  induction inwards with
  | nil =>
      rw [envFilesFrom, fileAmong_cons_eq_some_iff]
      simp [fileAmong]
  | cons name rest ih =>
      rw [envFilesFrom, fileAmong_cons_eq_some_iff, ih]
      simp only [List.suffix_cons_iff]
      constructor
      · rintro (file | ⟨lacks, outer, above, file, others⟩)
        · refine ⟨_, .inl rfl, file, ?_⟩
          rintro passed (rfl | above) longer
          · exact absurd longer (Nat.lt_irrefl _)
          · have shorter := above.length_le
            rw [List.length_cons] at longer
            omega
        · refine ⟨outer, .inr above, file, ?_⟩
          rintro passed (rfl | above') longer
          · exact lacks
          · exact others passed above' longer
      · rintro ⟨outer, rfl | above, file, others⟩
        · exact .inl file
        · have shorter := above.length_le
          refine .inr ⟨others _ (.inl rfl) ?_, outer, above, file, fun passed above' => others passed (.inr above')⟩
          rw [List.length_cons]
          omega

/-! ## The order that counts -/

def Tool.settled (tool : Tool) (environment : Environment) (words : List String) :
    Errand (Except Outcome Order) := do
  tool.finalOrder (← loadUsual environment) words

theorem Tool.run_eq_settled (tool : Tool) (environment : Environment) (words : List String) :
    tool.run environment words =
      (tool.settled environment words).bind fun
        | .error outcome => .done outcome
        | .ok order => order.perform := by
  unfold run settled
  refine Eq.trans ?_ (Errand.bind_assoc _ _ _).symm
  rfl

theorem run_whereabouts {α : Type} (world : World) (next : Except SystemFault (List FileName) → Errand α) :
    (Errand.whereabouts >>= next).run world = (next world.directory).run world :=
  rfl

theorem run_look {α : Type} (world : World) (path : Path) (next : Except SystemFault Found → Errand α) :
    (Errand.look path >>= next).run world = (next (world.files path)).run world :=
  rfl

theorem run_firstFile (world : World) (paths : List Path) :
    (firstFile paths).run world = ([], fileAmong world paths) := by
  induction paths with
  | nil => rfl
  | cons path others ih =>
      rw [firstFile, run_look, fileAmong]
      cases world.files path with
      | ok found =>
          cases found with
          | file content => rfl
          | directory entries => exact ih
      | error fault =>
          cases fault with
          | noSuchFile => exact ih
          | _ => rfl

theorem run_loadUsual (world : World) (environment : Environment) :
    (loadUsual environment).run world = ([], begun world environment) := by
  rw [loadUsual, run_whereabouts, begun]
  cases world.directory with
  | error fault => rfl
  | ok names =>
      refine (Errand.runFrom_bind world _ _ 0).trans ?_
      rw [show (firstFile _).runFrom world 0 = _ from run_firstFile world (envFilesFrom names.reverse)]
      dsimp only
      cases fileAmong world (envFilesFrom names.reverse) <;> rfl

theorem Tool.run_settled (tool : Tool) (world : World) (environment : Environment) (words : List String) :
    (tool.settled environment words).run world = (tool.finalOrder (begun world environment) words).run world := by
  refine (Errand.runFrom_bind world _ _ 0).trans ?_
  rw [show (loadUsual environment).runFrom world 0 = _ from run_loadUsual world environment]
  rfl

theorem run_loadNamed (there : world.files path = .ok found)
    (wellFormed : (environment.load found.content).2 = none) :
    (loadNamed environment path).run world = ([], .ok (environment.load found.content).1) := by
  rw [loadNamed, run_look, there]
  dsimp only
  generalize environment.load found.content = loaded at wellFormed
  obtain ⟨others, fault⟩ := loaded
  obtain rfl : fault = none := wellFormed
  rfl

/-- A tool with an order that names a file goes on with what the words say behind that file. -/
theorem Tool.run_finalOrder {tool : Tool} {order : Order} (made : tool.order environment words = .ok order)
    (named : order.envFile? = some path) (there : world.files path = .ok found)
    (wellFormed : (environment.load found.content).2 = none) :
    (tool.finalOrder environment words).run world =
      ([], (tool.order (environment.load found.content).1 words).mapError .stopped) := by
  unfold finalOrder
  rw [made]
  dsimp only
  rw [named]
  dsimp only
  refine (Errand.runFrom_bind world _ _ 0).trans ?_
  rw [show (loadNamed environment path).runFrom world 0 = _ from run_loadNamed there wellFormed]
  rfl

/-! ## Files that are named -/

/-- The words name an environment file, if they can be taken. -/
def NamesEnvFile (words : List String) (path : Path) : Prop :=
  ∀ values, Tool.insert.given words = .ok values → values.path? "dotenv" = some path

theorem NamesEnvFile.envFile? {order : Order} (named : NamesEnvFile words path)
    (made : Tool.insert.order environment words = .ok order) : order.envFile? = some path := by
  obtain ⟨values, taken, given, filled, makes⟩ := exists_taken made
  obtain ⟨_, job, formed, inserts⟩ := of_orderFrom makes
  obtain ⟨_, _, _, file⟩ := Values.of_insertJob formed
  have kept := find?_takeVariables_of_some filled (Values.path?_eq_some.1 (named values given))
  rw [Order.envFile?, inserts]
  exact file.trans (Values.path?_eq_some.2 kept)

theorem mapError_eq_ok {ε ε' α : Type} {f : ε → ε'} {result : Except ε α} {value : α} :
    result.mapError f = .ok value ↔ result = .ok value := by
  cases result with
  | error stop =>
      constructor <;> rintro ⟨⟩
  | ok other =>
      constructor <;> rintro ⟨⟩ <;> rfl

/-- How the run comes to its order: from what the words say behind both files, if they say something behind
the first. -/
theorem run_settled_insert (named : NamesEnvFile words path) (there : world.files path = .ok found)
    (wellFormed : (environment.load found.content).2 = none) :
    ((Tool.insert.settled environment words).run world) =
      ([], (Tool.insert.order (begun world environment) words >>= fun _ =>
        Tool.insert.order ((begun world environment).load found.content).1 words).mapError .stopped) := by
  rw [Tool.run_settled]
  cases first : Tool.insert.order (begun world environment) words with
  | error stop =>
      unfold Tool.finalOrder
      rw [first]
      rfl
  | ok order =>
      -- The file is loaded where another one was offered before, but its fault does not depend on that.
      rw [Environment.fault_load_eq environment (begun world environment)] at wellFormed
      exact Tool.run_finalOrder first (named.envFile? first) there wellFormed

def textFile (text : String) : Found :=
  .file (.readable (Utf8.ofString text) none)

/-- A world in which the working directory is `/home/ada`. There is a usual file of a directory, another file, and
nothing else. -/
def worldWith (place : List FileName) (usual other : String) : World where
  reaches _ := false
  reply _ := .lost
  directory := .ok [Utf8.ofString "home", Utf8.ofString "ada"]
  files path :=
    if path = envFileIn place then .ok (textFile usual)
    else if path = Path.ofString "e.env" then .ok (textFile other)
    else .error .noSuchFile
  portFault _ := none
  elapsed := Duration.zero

/-- An order with the other file named, in which the rest is as usual. -/
def orderFor (host : String) (port : Nat) (table : String) : Order where
  cluster := ⟨host, port, ⟨usualTimeout, 0⟩⟩
  job := .insert
    { settings :=
        { input := Path.ofString "in"
          table := table
          maxBatch := usualBatch
          marks := usualMarks
          lowThreshold := usualThreshold
          pollInterval := Duration.ofMilliseconds usualRest }
      metricsPort := 0
      envFile := some (Path.ofString "e.env") }

end EventFeed.Command
