/-
The data hook of an entity. The hook is a template in whose text words stand for the entity's names
and for the route; the words are replaced one after another.
-/
import Tablewright.Artifact.Basic
import Tablewright.Text.Search

set_option autoImplicit false

namespace Tablewright

namespace Hook

/-- A piece of a template line. -/
inductive Piece where
  /-- Fixed text. -/
  | fixed (s : String)
  /-- The name of the table. -/
  | table
  /-- The name of the type. -/
  | typeName
  /-- The name of the hook. -/
  | hookName
  /-- The route of the endpoint. -/
  | route
deriving DecidableEq

instance : Coe String Piece := ⟨.fixed⟩

/-- The pieces that stand for something, in the order in which they are filled. -/
def slots : List Piece := [.table, .typeName, .hookName, .route]

/-- A piece as it stands in the template. -/
def Piece.token : Piece → Text
  | fixed s => s
  | table => "__TABLE__"
  | typeName => "__TYPE__"
  | hookName => "__HOOK__"
  | .route => "__ROUTE__"

/-- A piece filled in. -/
def Piece.fill (n : Names) (route : Text) : Piece → Text
  | fixed s => s
  | table => n.canonical
  | typeName => n.typeName
  | hookName => n.hookName
  | .route => route

/-- The declarations before the hook: what a record is, and where the endpoint is. -/
def declarations : List (List Piece) := [
    ["/**"],
    [" * Data hook for ", .table, " (generated by schemapilot)"],
    [" */"],
    ["import \x7b useCallback, useEffect, useState \x7d from 'react';"],
    [],
    ["export type ", .typeName, "Record = \x7b"],
    ["  id: number;"],
    ["  createdAt: string;"],
    ["  updatedAt: string;"],
    ["  [field: string]: unknown;"],
    ["\x7d;"],
    [],
    ["export type ", .typeName, "Input = Omit<Partial<", .typeName, "Record>, 'id' | 'createdAt' | 'updatedAt'>;"],
    [],
    ["const ENDPOINT = '", .route, "';"],
    []]

/-- The function that sends a request and turns an error of the server into one of the client. -/
def requestFunction : List (List Piece) := [
    ["async function request<T>(url: string, init?: RequestInit): Promise<T> \x7b"],
    ["  const response = await fetch(url, \x7b"],
    ["    ...init,"],
    ["    headers: \x7b 'Content-Type': 'application/json', ...(init?.headers || \x7b\x7d) \x7d,"],
    ["  \x7d);"],
    ["  const payload = await response.json().catch(() => null);"],
    ["  if (!response.ok) \x7b"],
    ["    const message = payload && payload.error ? payload.error : `HTTP $\x7bresponse.status\x7d`;"],
    ["    throw new Error(message);"],
    ["  \x7d"],
    ["  return payload as T;"],
    ["\x7d"],
    []]

/-- The state of the hook and the reading of all rows. -/
def refetchPart : List (List Piece) := [
    ["export function ", .hookName, "() \x7b"],
    ["  const [data, setData] = useState<", .typeName, "Record[]>([]);"],
    ["  const [loading, setLoading] = useState<boolean>(true);"],
    ["  const [error, setError] = useState<string | null>(null);"],
    [],
    ["  const refetch = useCallback(async () => \x7b"],
    ["    setError(null);"],
    ["    try \x7b"],
    ["      const rows = await request<", .typeName, "Record[]>(ENDPOINT);"],
    ["      setData(rows);"],
    ["    \x7d catch (err) \x7b"],
    ["      setError(err instanceof Error ? err.message : 'An error occurred');"],
    ["    \x7d finally \x7b"],
    ["      setLoading(false);"],
    ["    \x7d"],
    ["  \x7d, []);"],
    []]

/-- Creating a row. -/
def createPart : List (List Piece) := [
    ["  // Local state changes only after the server confirmed the write."],
    ["  const create = useCallback(async (item: ", .typeName, "Input) => \x7b"],
    ["    setError(null);"],
    ["    try \x7b"],
    ["      const created = await request<", .typeName, "Record>(ENDPOINT, \x7b"],
    ["        method: 'POST',"],
    ["        body: JSON.stringify(item),"],
    ["      \x7d);"],
    ["      setData(prev => [...prev, created]);"],
    ["      return created;"],
    ["    \x7d catch (err) \x7b"],
    ["      setError(err instanceof Error ? err.message : 'An error occurred');"],
    ["      throw err;"],
    ["    \x7d"],
    ["  \x7d, []);"],
    []]

/-- Changing a row. -/
def updatePart : List (List Piece) := [
    ["  const update = useCallback(async (id: number, changes: ", .typeName, "Input) => \x7b"],
    ["    setError(null);"],
    ["    try \x7b"],
    ["      const updated = await request<", .typeName, "Record>(`$\x7bENDPOINT\x7d?id=$\x7bid\x7d`, \x7b"],
    ["        method: 'PUT',"],
    ["        body: JSON.stringify(changes),"],
    ["      \x7d);"],
    ["      setData(prev => prev.map(item => (item.id === id ? updated : item)));"],
    ["      return updated;"],
    ["    \x7d catch (err) \x7b"],
    ["      setError(err instanceof Error ? err.message : 'An error occurred');"],
    ["      throw err;"],
    ["    \x7d"],
    ["  \x7d, []);"],
    []]

/-- Deleting a row. -/
def removePart : List (List Piece) := [
    ["  const remove = useCallback(async (id: number) => \x7b"],
    ["    setError(null);"],
    ["    try \x7b"],
    ["      await request<\x7b success: boolean \x7d>(`$\x7bENDPOINT\x7d?id=$\x7bid\x7d`, \x7b method: 'DELETE' \x7d);"],
    ["      setData(prev => prev.filter(item => item.id !== id));"],
    ["    \x7d catch (err) \x7b"],
    ["      setError(err instanceof Error ? err.message : 'An error occurred');"],
    ["      throw err;"],
    ["    \x7d"],
    ["  \x7d, []);"],
    []]

/-- The first reading, and what the hook hands out. -/
def closingPart : List (List Piece) := [
    ["  useEffect(() => \x7b"],
    ["    refetch();"],
    ["  \x7d, [refetch]);"],
    [],
    ["  return \x7b"],
    ["    data,"],
    ["    loading,"],
    ["    error,"],
    ["    refetch,"],
    ["    create,"],
    ["    update,"],
    ["    delete: remove,"],
    ["  \x7d;"],
    ["\x7d"],
    []]

/-- The lines of the template. -/
def template : List (List Piece) :=
  declarations ++ requestFunction ++ refetchPart ++ createPart ++ updatePart ++ removePart
    ++ closingPart

/-- The text of the template. -/
def templateText : Text := Text.unlines (template.map fun line => line.flatMap Piece.token)

/-- A text in which slots are filled one after another, each wherever its word stands
(`render_hook`). A word that a filled slot brought along would be filled as well. -/
def fillIn (n : Names) (route : Text) (order : List Piece) (t : Text) : Text :=
  order.foldl (fun t p => t.replaceAll p.token (p.fill n route)) t

end Hook

/-- Compile the data hook of an entity (`compile_hook`). -/
def compileHook (entity : Text) (route : Option Text) : Artifact :=
  let names := Names.ofLabel entity
  { kind := .hook
    entity := names.canonical
    path := ArtifactKind.hook.path names.canonical
    content := Hook.fillIn names (Route.path entity route) Hook.slots Hook.templateText }

end Tablewright
