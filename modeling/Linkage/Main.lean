import Linkage.Project.Command

/-!
The program `abi-check`. It takes a picture of the files that a check can look at, and leaves the
rest to the command.
-/
namespace Linkage

namespace Picture

/-- The file system after a step, or as it was if the step fails. -/
def after (fs : FileSystem) (step : FileSystem → Except FileError FileSystem) : FileSystem :=
  (step fs).toOption.getD fs

/-- Takes up what is at a path, a directory with all that lies below. Links in a directory are left
out. -/
partial def take (fs : FileSystem) (path : Path) : IO FileSystem := do
  let place := (← IO.currentDir) / path.text
  if ← place.isDir then
    let mut fs := after fs (·.createDirectory path)
    for entry in ← place.readDir do
      if (← entry.path.symlinkMetadata).type != .symlink then
        fs ← take fs (path.join ⟨entry.fileName⟩)
    return fs
  else if ← place.pathExists then
    let data := (← IO.FS.readBinFile place).data
    return after fs (·.writeFile path data.toList)
  else return fs

/-- Takes up the modules and the release file of a JDK at a path or around it. -/
def takeHome (fs : FileSystem) (home : Path) : IO FileSystem := do
  let mut fs := fs
  for root in home :: home.parent?.toList do
    fs ← take fs (Jdk.moduleDirectory root)
    fs ← take fs (root.join ⟨"release"⟩)
  return fs

/-- Takes up the program `java` in the first directory of the search path that has it, and its
JDK. -/
def takeProgram (fs : FileSystem) (searchPath : String) : IO FileSystem := do
  for directory in Text.splitAll (· == ':') searchPath.toList do
    let program := (⟨String.ofList directory⟩ : Path).join ⟨"java"⟩
    let place := (← IO.currentDir) / program.text
    if (← place.pathExists) && !(← place.isDir) then
      let target : Path := ⟨(← IO.FS.realPath place).toString⟩
      let fs := after (after fs (·.writeLink program target)) (·.writeFile target [])
      match target.parent?.bind Path.parent? with
      | some home => return ← takeHome fs home
      | none => return fs
  return fs

/-- Takes up what the classpath of settings consists of. -/
def takeClasspath (fs : FileSystem) (env : Environment) (s : ClasspathSettings) :
    IO FileSystem := do
  let mut fs := fs
  for entry in s.entryPoints ++ s.entries do
    fs ← take fs entry.path
  if s.includeJdk then
    for home in (s.jdkHome <|> env.javaHome.map Path.mk).toList do
      fs ← takeHome fs home
    if s.jdkHome.isNone then
      fs ← takeProgram fs (env.searchPath.getD "")
  return fs

/-- Takes up everything that a command can look at. -/
def ofCommand (env : Environment) (command : Command) : IO FileSystem := do
  let here : Path := ⟨(← IO.currentDir).toString⟩
  let fs := FileSystem.empty here.components
  match command with
  | .check options =>
    let config := options.config.getD CheckOptions.defaultConfig
    let fs ← take fs config
    match Settings.ofFile fs config with
    | .ok settings => takeClasspath fs env (options.override settings).classpath
    | .error _ => return fs
  | _ => return fs

end Picture
end Linkage

open Linkage in
/-- Runs the program with its arguments. -/
def main (arguments : List String) : IO UInt32 := do
  match Command.ofArguments? arguments with
  | none =>
    IO.eprint Command.usageText
    return 2
  | some command =>
    let env : Environment :=
      ⟨← IO.getEnv "JAVA_HOME", ← IO.getEnv "PATH", none⟩
    let outcome := command.run (← Picture.ofCommand env command) env
    IO.print outcome.output
    IO.eprint outcome.errors
    return UInt32.ofNat outcome.exitCode
