import Reckon.Cache
import Reckon.Program

/-!
# Engines

An engine is a configuration with a cache of expression texts. It evaluates an
expression straight from its text, or compiles it to a program that can be run
many times. Every text goes through the cache, which takes off the blanks at
its end; errors are placed in what is left.

An evaluation does not touch the cache, so asking for one gives back the engine
after the look-up together with the evaluation.

## Main definitions

* `Engine`: A configuration and a cache.
* `Engine.eval`: Evaluating a text.
* `Engine.compile`, `Engine.execute`: Compiling a text and running a program.
-/

namespace Reckon

/-- A configuration and a cache of expression texts. -/
structure Engine where
  config : Config
  cache : Cache
deriving Inhabited

namespace Engine

/-- The cache that a mode asks for, empty. -/
def freshCache : CacheMode → Cache
  | .own capacity => Cache.ofCapacity capacity
  | .shared => Cache.ofCapacity Cache.sharedCapacity

/-- An engine with an empty cache. -/
def ofConfig (config : Config) : Engine := ⟨config, freshCache config.cache⟩

/-- The trimmed form of a text, and the engine after it was asked for. -/
def buffer (e : Engine) (text : String) : String × Engine :=
  let (form, cache) := e.cache.buffer text
  (form, { e with cache := cache })

/-- Evaluating the text of an expression. A text with nothing but blanks has
    nothing to do, which is said of the text as it was given. -/
def eval (e : Engine) (env : Env) (text : String) : Engine × Eval Value :=
  let (form, e) := e.buffer text
  if Text.allBlank form.toList then (e, throw ((Error.of .nothingToDo).located text 0))
  else (e, Interpret.whole e.config env form)

/-- Compiling the text of an expression. -/
def compile (e : Engine) (text : String) : Engine × Except Error Program :=
  let (form, e) := e.buffer text
  (e, Program.compile form)

/-- Running a program. -/
def execute (e : Engine) (env : Env) (program : Program) : Eval Value :=
  program.run e.config env

end Engine

end Reckon
