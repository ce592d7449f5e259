import VirtualShell.Tree.Node
/-
  The tree that a shell starts with when nothing is stored: a desktop, two
  documents, an empty place for downloads, and the protected system directory.
-/

namespace VirtualShell

/-- The content of the welcome document. -/
def welcomeDocument : Text := "Welcome to the TreeShell Text Editor!"

/-- A small picture. -/
def samplePicture : Text :=
  "data:image/png;base64,iVBORw0KGgoAAAANSUhEUgAAAEAAAABACAYAAACqaXHeAAAAAXNSR0IArs4c6QAAAHhJREFUeJzt" ++
  "0DEBAAAAwqD1T20ND6AAAAAAAAAAAAAAAAAAAAAAAAAAAAAAAAAAAAAAAAAAAAAAAAAAAAAAAAAAAAAAAAAAAAAAAAAA" ++
  "AAAAAAAAAAAAAAAAAAAAAAAAAAAAAAAAAAAAAAAAAAAAAAAAAAAAAAAAAAA8AAn2AAB2G1p5AAAAABJRU5ErkJggg=="

namespace Node

/-- A file of the starting tree, together with its key. -/
def startingFile (parent name : Text) (mtime : Float) (content : Text) : Text × Node :=
  (name, .file name (Path.join parent name) mtime content ((contentSize? content).getD 0))

/-- A directory of the starting tree, together with its key. -/
def startingDirectory (name : Text) (mtime : Float) (children : List (Text × Node)) :
    Text × Node :=
  (name, .directory name (Path.join Path.root name) mtime children)

/-- The starting tree as of `now`; its nodes look as if changed some hours before. -/
def defaultTree (now : Float) : Node :=
  .directory [] Path.root (now - 10000) [
    startingDirectory "Desktop" (now - 9000) [],
    startingDirectory "Documents" (now - 500) [
      startingFile "/Documents" "welcome.txt" (now - 200) welcomeDocument,
      startingFile "/Documents" "photo.png" (now - 500) samplePicture],
    startingDirectory "Downloads" (now - 8500) [],
    startingDirectory "System" (now - 9500) [
      startingFile "/System" "kernel.bin" (now - 8000) "BINARY_DATA",
      startingFile "/System" "config.sys" (now - 7000) "CONFIG_DATA"]]

end Node

end VirtualShell
