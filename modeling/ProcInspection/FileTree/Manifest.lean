import ProcInspection.FileTree.Build
import ProcInspection.Text.Hex

namespace ProcInspection
namespace Manifest

/-!
A tree of files as text.

A manifest has one line for each node, in an order in which parents come
first: what the node is, its path and, for a file or a link, the bytes it
holds as hexadecimal digits.  Tabs stand between the three.  A further line
may close a node to the reader.  Empty lines are passed over.
-/

def bytes? : List Char -> Option Bytes
  | [] => some []
  | high :: low :: digits =>
      match Hex.digit? high, Hex.digit? low, bytes? digits with
      | some high, some low, some bytes => some (UInt8.ofNat (high * 16 + low) :: bytes)
      | _, _, _ => none
  | [_] => none

/-- A line without content. -/
def bareStep? (word : List Char) (path : Path) : Option FileTree.Step :=
  if word = "directory".toList then some (.makeDirectory path)
  else if word = "closed".toList then some (.deny path)
  else none

/-- A line with content. -/
def fullStep? (word : List Char) (path : Path) (content : Bytes) : Option FileTree.Step :=
  if word = "file".toList then some (.write path content)
  else if word = "link".toList then some (.symlink path content)
  else none

def step? (line : List Char) : Option FileTree.Step :=
  match line.splitOnP fun c => c == '\t' with
  | [word, path] => bareStep? word ⟨Utf8.encodeChars path⟩
  | [word, path, content] => (bytes? content).bind (fullStep? word ⟨Utf8.encodeChars path⟩)
  | _ => none

def steps? (manifest : String) : Option (List FileTree.Step) :=
  ((manifest.toList.splitOnP fun c => c == '\n').filter fun line => !line.isEmpty).mapM step?

/-- The tree that a manifest describes, from the top directory down. -/
def tree? (manifest : String) : Option FileTree :=
  (steps? manifest).bind (FileTree.build ⟨Path.ofText "/"⟩)

end Manifest
end ProcInspection
