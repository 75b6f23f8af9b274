/-
The endpoint module of an entity: a fixed head and one handler for each operation asked for.
-/
import Tablewright.Artifact.Basic
import Tablewright.Artifact.Method

set_option autoImplicit false

namespace Tablewright

namespace Endpoint

/-- The lines before the handlers. -/
def head (n : Names) (route : Text) : List Text := [
    "\"\"\"CRUD endpoint for " ++ n.canonical ++ " (generated by schemapilot).\"\"\"",
    "import logging",
    "from typing import Optional",
    "",
    "from fastapi import APIRouter, Depends, Query, Request",
    "from fastapi.responses import JSONResponse",
    "from sqlalchemy.exc import IntegrityError, SQLAlchemyError",
    "from sqlalchemy.orm import Session",
    "",
    "from app.db.session import get_db",
    "from app.models." ++ n.canonical ++ " import " ++ n.model,
    "from app.schemas." ++ n.canonical ++ " import " ++ n.insertShape ++ ", " ++ n.selectShape
      ++ ", " ++ n.updateShape,
    "",
    "log = logging.getLogger(__name__)",
    "",
    "router = APIRouter(prefix=\"" ++ route ++ "\", tags=[\""
      ++ n.canonical ++ "\"])",
    "",
    "",
    "def _failure(status_code: int, kind: str, message: str) -> JSONResponse:",
    "    return JSONResponse(status_code=status_code, content=\x7b\"error\": message, \"kind\": kind\x7d)",
    "",
    "",
    "def _serialize(row: " ++ n.model ++ ") -> dict:",
    "    return " ++ n.selectShape ++ ".model_validate(row).model_dump(mode=\"json\")"]

/-- The handler that reads one row or all (`_render_read`). -/
def readHandler (n : Names) : List Text := [
    "@router.get(\"\")",
    "def read_" ++ n.canonical
      ++ "(id: Optional[str] = Query(None), db: Session = Depends(get_db)):",
    "    try:",
    "        if id is not None:",
    "            if not (id.isascii() and id.isdigit()):",
    "                return _failure(400, \"validation\", \"id must be an integer\")",
    "            row = db.get(" ++ n.model ++ ", int(id))",
    "            if row is None:",
    "                return _failure(404, \"not_found\", f\"" ++ n.canonical
      ++ " \x7bid\x7d not found\")",
    "            return _serialize(row)",
    "        rows = db.query(" ++ n.model ++ ").order_by(" ++ n.model ++ ".id).all()",
    "        return [_serialize(row) for row in rows]",
    "    except SQLAlchemyError:",
    "        log.exception(\"Failed to fetch " ++ n.canonical ++ "\")",
    "        return _failure(500, \"internal\", \"Failed to fetch " ++ n.canonical ++ "\")"]

/-- The handler that creates a row (`_render_create`). -/
def createHandler (n : Names) : List Text := [
    "@router.post(\"\")",
    "async def create_" ++ n.canonical ++ "(request: Request, db: Session = Depends(get_db)):",
    "    try:",
    "        data = " ++ n.insertShape ++ ".model_validate(await request.json())",
    "    except ValueError as e:",
    "        return _failure(400, \"validation\", str(e))",
    "    try:",
    "        row = " ++ n.model ++ "(**data.model_dump())",
    "        db.add(row)",
    "        db.commit()",
    "        db.refresh(row)",
    "    except IntegrityError as e:",
    "        db.rollback()",
    "        return _failure(400, \"validation\", str(e.orig))",
    "    except SQLAlchemyError:",
    "        db.rollback()",
    "        log.exception(\"Failed to create " ++ n.canonical ++ "\")",
    "        return _failure(500, \"internal\", \"Failed to create " ++ n.canonical ++ "\")",
    "    return JSONResponse(status_code=201, content=_serialize(row))"]

/-- The handler that changes a row (`_render_update`). -/
def updateHandler (n : Names) : List Text := [
    "@router.put(\"\")",
    "async def update_" ++ n.canonical
      ++ "(request: Request, id: Optional[str] = Query(None), db: Session = Depends(get_db)):",
    "    if id is None:",
    "        return _failure(400, \"validation\", \"id is required\")",
    "    if not (id.isascii() and id.isdigit()):",
    "        return _failure(400, \"validation\", \"id must be an integer\")",
    "    try:",
    "        data = " ++ n.updateShape ++ ".model_validate(await request.json())",
    "    except ValueError as e:",
    "        return _failure(400, \"validation\", str(e))",
    "    try:",
    "        row = db.get(" ++ n.model ++ ", int(id))",
    "        if row is None:",
    "            return _failure(404, \"not_found\", f\"" ++ n.canonical
      ++ " \x7bid\x7d not found\")",
    "        for key, value in data.model_dump(exclude_unset=True).items():",
    "            setattr(row, key, value)",
    "        db.commit()",
    "        db.refresh(row)",
    "    except IntegrityError as e:",
    "        db.rollback()",
    "        return _failure(400, \"validation\", str(e.orig))",
    "    except SQLAlchemyError:",
    "        db.rollback()",
    "        log.exception(\"Failed to update " ++ n.canonical ++ "\")",
    "        return _failure(500, \"internal\", \"Failed to update " ++ n.canonical ++ "\")",
    "    return _serialize(row)"]

/-- The handler that deletes a row (`_render_delete`). -/
def deleteHandler (n : Names) : List Text := [
    "@router.delete(\"\")",
    "def delete_" ++ n.canonical
      ++ "(id: Optional[str] = Query(None), db: Session = Depends(get_db)):",
    "    if id is None:",
    "        return _failure(400, \"validation\", \"id is required\")",
    "    if not (id.isascii() and id.isdigit()):",
    "        return _failure(400, \"validation\", \"id must be an integer\")",
    "    try:",
    "        row = db.get(" ++ n.model ++ ", int(id))",
    "        if row is None:",
    "            return _failure(404, \"not_found\", f\"" ++ n.canonical
      ++ " \x7bid\x7d not found\")",
    "        db.delete(row)",
    "        db.commit()",
    "    except SQLAlchemyError:",
    "        db.rollback()",
    "        log.exception(\"Failed to delete " ++ n.canonical ++ "\")",
    "        return _failure(500, \"internal\", \"Failed to delete " ++ n.canonical ++ "\")",
    "    return \x7b\"success\": True, \"id\": int(id)\x7d"]

/-- The lines of the handler of an operation. -/
def handler (n : Names) : Method → List Text
  | .get => readHandler n
  | .post => createHandler n
  | .put => updateHandler n
  | .delete => deleteHandler n

/-- The lines of an endpoint module (`render_endpoint`). -/
def lines (n : Names) (route : Text) (methods : List Method) : List Text :=
  head n route ++ methods.flatMap (fun m => [[], []] ++ handler n m) ++ [[]]

end Endpoint

/-- Compile the endpoint of an entity (`compile_endpoint`). -/
def compileEndpoint (entity : Text) (methods : List Json) (route : Option Text) :
    Except Refusal Artifact := do
  let methods ← Method.select methods
  let names := Names.ofLabel entity
  return { kind := .endpoint
           entity := names.canonical
           path := ArtifactKind.endpoint.path names.canonical
           content := Text.unlines (Endpoint.lines names (Route.path entity route) methods) }

end Tablewright
