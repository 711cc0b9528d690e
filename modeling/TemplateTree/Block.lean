import Std.Data.ExtTreeMap
import TemplateTree.Node

/-!
# Blocks in a tree

The places of a tree that can be rendered are its top level, the parameters of
tags, the bodies of loops and blocks, and the bodies of all arms of its
conditionals, at every depth. Conditions, sources of loops and the content
that an `extend` node supplies are no such places: a block there is no part of
the tree's layout.

`firstBlocks` collects the content of the first block of each key, reading
those places in order, a block before the blocks inside it. `hasBlocks` asks
whether there is any block or slot in them.
-/

namespace TemplateTree

/-- Content by the key of the block it belongs to. -/
abbrev Contents := Std.ExtTreeMap String (List Node)

mutual

/-- Adds the blocks of a node to those found before it; a key that was found
keeps its content. -/
def Node.addBlocks : Node → Contents → Contents
  | .block key body, found => addBlocks body (found.insertIfNew key body)
  | .tag _ params, found => addBlocks params found
  | .loop _ _ body, found => addBlocks body found
  | .conditional chain, found => chain.addBlocks found
  | .raw _, found | .var _, found | .constant _, found | .extend _ _, found
  | .slot _, found => found

def Chain.addBlocks : Chain → Contents → Contents
  | .last _ body, found => TemplateTree.addBlocks body found
  | .more _ body next, found => next.addBlocks (TemplateTree.addBlocks body found)

def addBlocks : List Node → Contents → Contents
  | [], found => found
  | node :: nodes, found => addBlocks nodes (node.addBlocks found)

end

/-- The content of the first block of each key. -/
def firstBlocks (nodes : List Node) : Contents :=
  addBlocks nodes ∅

mutual

/-- Whether a node is, or holds at a place that can be rendered, a block or a
slot. -/
def Node.hasBlocks : Node → Bool
  | .block _ _ | .slot _ => true
  | .tag _ params => hasBlocks params
  | .loop _ _ body => hasBlocks body
  | .conditional chain => chain.hasBlocks
  | .raw _ | .var _ | .constant _ | .extend _ _ => false

def Chain.hasBlocks : Chain → Bool
  | .last _ body => TemplateTree.hasBlocks body
  | .more _ body next => TemplateTree.hasBlocks body || next.hasBlocks

def hasBlocks : List Node → Bool
  | [] => false
  | node :: nodes => node.hasBlocks || hasBlocks nodes

end

end TemplateTree
