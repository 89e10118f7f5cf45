import Lalaba.Pos.Course

/-!
# Editing the catalogue

Products, services and inventory items are edited, archived and taken out while
orders are open.  An order keeps the consumables that its services were sold with,
but of a product it only keeps the name, and the unit of an inventory item is read
whenever its stock is moved.

The checks that a name or a code is free in its branch are left out: they refuse an
edit, and an edit that is made here is past them.
-/

namespace Lalaba.Pos

open Foundation

/-- The catalogue of a merchant, and the point of sale that reads it. -/
structure Shop where
  catalog : Catalog
  state : State

namespace Shop

def start (catalog : Catalog) (inventory : Collection Inventory) : Shop where
  catalog
  state := .start inventory

def ticket (orderId : ObjectId) (shop : Shop) : Ticket := shop.state.ticket orderId

def writeProducts (products : Collection Product) (shop : Shop) : Shop :=
  { shop with catalog := { shop.catalog with products } }

def writeServices (services : Collection Service) (shop : Shop) : Shop :=
  { shop with catalog := { shop.catalog with services } }

def writeInventory (inventory : Collection Inventory) (shop : Shop) :
    Shop :=
  { shop with state := shop.state.write { shop.state.store with inventory } }

end Shop

/-- `UpdateProductInput`; a missing field is not set. -/
structure UpdateProductInput where
  productName : Option String := none
  price : Option ℚ≥0 := none
  quantity : Option ℚ≥0 := none
  productUnit : Option InventoryUnit := none

/-- `$set` the input on a product. -/
def UpdateProductInput.apply (input : UpdateProductInput)
    (product : Product) : Product :=
  { product with
    productName := input.productName.getD product.productName
    price := input.price.getD product.price
    quantity := input.quantity.getD product.quantity
    productUnit := input.productUnit.getD product.productUnit }

namespace Shop

/-- Change a product, which belongs to the owner of its inventory item. -/
def changeProduct (productId : ObjectId) (uid : Uid)
    (check : Product → Except ServiceError Unit)
    (change : Product → Product) (shop : Shop) :
    Except ServiceError Shop :=
  match shop.catalog.products.lookup productId with
  | none => .error (.notFound "Product not found")
  | some product =>
    match shop.state.store.findInventory product.inventoryId uid with
    | none => .error (.notFound
        "Product not found or does not belong to you")
    | some _ =>
      (check product).map fun _ => shop.writeProducts
        (shop.catalog.products.insert productId (change product))

/-- `ProductsService.update`. -/
def updateProduct (productId : ObjectId) (uid : Uid)
    (input : UpdateProductInput) (shop : Shop) :
    Except ServiceError Shop :=
  shop.changeProduct productId uid (fun _ => .ok ()) input.apply

/-- `ProductsService.archive`. -/
def archiveProduct (productId : ObjectId) (uid : Uid) (shop : Shop) :
    Except ServiceError Shop :=
  shop.changeProduct productId uid (fun product =>
      if product.isArchived then
        .error (.badRequest "Product is already archived")
      else
        .ok ())
    fun product => { product with isArchived := true }

/-- `ProductsService.restore`. -/
def restoreProduct (productId : ObjectId) (uid : Uid) (shop : Shop) :
    Except ServiceError Shop :=
  shop.changeProduct productId uid (fun product =>
      if product.isArchived then
        .ok ()
      else
        .error (.badRequest "Product is not archived"))
    fun product => { product with isArchived := false }

def deleteProduct (productId : ObjectId) (shop : Shop) : Shop :=
  shop.writeProducts (shop.catalog.products.erase productId)

end Shop

/-! ## Services -/

/-- `UpdateServiceInput`; a missing field is not set. -/
structure UpdateServiceInput where
  serviceName : Option String := none
  serviceCode : Option String := none
  price : Option ℚ≥0 := none
  pricingType : Option Orders.PricingType := none
  baseKilos : Option ℚ≥0 := none
  excessRate : Option ℚ≥0 := none
  defaultProducts : Option (List DefaultProduct) := none

/-- `$set` the input on a service. -/
def UpdateServiceInput.apply (input : UpdateServiceInput)
    (service : Service) : Service :=
  { service with
    serviceName := input.serviceName.getD service.serviceName
    serviceCode := input.serviceCode.or service.serviceCode
    price := input.price.getD service.price
    pricingType := input.pricingType.getD service.pricingType
    baseKilos := input.baseKilos.or service.baseKilos
    excessRate := input.excessRate.or service.excessRate
    defaultProducts := input.defaultProducts.getD service.defaultProducts }

def validateDefaultProducts (defaultProducts : List DefaultProduct)
    (uid : Uid) (store : PosStore) : Except ServiceError Unit :=
  defaultProducts.forM fun consumable =>
    match store.findInventory consumable.inventoryId uid with
    | none => .error (.badRequest ("One or more default products in this " ++
        "service could not be found."))
    | some inventory =>
      if inventory.isArchived then
        .error (.badRequest ("Inventory item \"" ++ inventory.productName ++ "\" is archived"))
      else
        .ok ()

namespace Shop

def changeService (serviceId : ObjectId) (uid : Uid)
    (check : Service → Except ServiceError Unit)
    (change : Service → Option Service) (shop : Shop) :
    Except ServiceError Shop :=
  match (shop.catalog.services.lookup serviceId).filter fun service =>
      service.uid = uid with
  | none => .error (.notFound "Service not found")
  | some service =>
    (check service).map fun _ => shop.writeServices (match change service with
      | none => shop.catalog.services.erase serviceId
      | some changed => shop.catalog.services.insert serviceId changed)

/-- `ServicesService.update`. -/
def updateService (serviceId : ObjectId) (uid : Uid)
    (input : UpdateServiceInput) (shop : Shop) :
    Except ServiceError Shop :=
  shop.changeService serviceId uid
    (fun _ => validateDefaultProducts (input.defaultProducts.getD []) uid shop.state.store)
    fun service => some (input.apply service)

/-- `ServicesService.archive`. -/
def archiveService (serviceId : ObjectId) (uid : Uid) (shop : Shop) :
    Except ServiceError Shop :=
  shop.changeService serviceId uid (fun service =>
      if service.isArchived then
        .error (.badRequest "Service is already archived")
      else
        .ok ())
    fun service => some { service with isArchived := true }

/-- `ServicesService.restore`. -/
def restoreService (serviceId : ObjectId) (uid : Uid) (shop : Shop) :
    Except ServiceError Shop :=
  shop.changeService serviceId uid (fun service =>
      if service.isArchived then
        .ok ()
      else
        .error (.badRequest "Service is not archived"))
    fun service => some { service with isArchived := false }

def activeOrderCount (serviceId : ObjectId) (store : PosStore) : ℕ :=
  store.orders.entries.countP fun entry =>
    (entry.2.items.any fun item => item.serviceId = some serviceId) &&
      decide (entry.2.laundryStatus ∉ [LaundryStatus.completed, .cancelled, .void])

/-- `ServicesService.delete`. -/
def deleteService (serviceId : ObjectId) (uid : Uid) (shop : Shop) :
    Except ServiceError Shop :=
  shop.changeService serviceId uid (fun _ =>
      if 0 < activeOrderCount serviceId shop.state.store then
        .error (.badRequest ("Cannot delete this service: it is " ++
          "referenced by " ++
          toString (activeOrderCount serviceId shop.state.store) ++
          " active order(s). Complete or cancel those orders first."))
      else
        .ok ())
    fun _ => none

end Shop

/-! ## Inventory -/

/-- `UpdateInventoryInput`; a missing field is not set. -/
structure UpdateInventoryInput where
  productName : Option String := none
  inventoryUnit : Option InventoryUnit := none

/-- `$set` the input on an inventory item; its stock is left alone. -/
def UpdateInventoryInput.apply (input : UpdateInventoryInput)
    (item : Inventory) : Inventory :=
  { item with
    productName := input.productName.getD item.productName
    inventoryUnit := input.inventoryUnit.getD item.inventoryUnit }

namespace Shop

def changeInventory (inventoryId : ObjectId) (uid : Uid)
    (check : Inventory → Except ServiceError Unit)
    (change : Inventory → Inventory) (shop : Shop) :
    Except ServiceError Shop :=
  match shop.state.store.findInventory inventoryId uid with
  | none => .error (.notFound "Inventory item not found")
  | some item =>
    (check item).map fun _ => shop.writeInventory
      (shop.state.store.inventory.insert inventoryId (change item))

/-- `InventoryService.update`. -/
def updateInventory (inventoryId : ObjectId) (uid : Uid)
    (input : UpdateInventoryInput) (shop : Shop) :
    Except ServiceError Shop :=
  shop.changeInventory inventoryId uid (fun _ => .ok ()) input.apply

def activeProductCount (inventoryId : ObjectId) (catalog : Catalog) : ℕ :=
  catalog.products.entries.countP fun entry =>
    decide (entry.2.inventoryId = inventoryId) && !entry.2.isArchived

def activeServiceCount (inventoryId : ObjectId) (uid : Uid)
    (catalog : Catalog) : ℕ :=
  catalog.services.entries.countP fun entry =>
    decide (entry.2.uid = uid) && !entry.2.isArchived &&
      entry.2.defaultProducts.any fun consumable =>
        consumable.inventoryId = inventoryId

/-- The check of `InventoryService.archive`. -/
def assertArchivable (inventoryId : ObjectId) (uid : Uid)
    (catalog : Catalog) (item : Inventory) : Except ServiceError Unit :=
  if item.isArchived then
    .error (.badRequest "Inventory item is already archived")
  else if 0 < activeProductCount inventoryId catalog then
    .error (.badRequest ("Cannot archive — " ++
      toString (activeProductCount inventoryId catalog) ++
      " active product(s) still use this inventory item. Archive those " ++
      "products first."))
  else if 0 < activeServiceCount inventoryId uid catalog then
    .error (.badRequest ("Cannot archive — " ++
      toString (activeServiceCount inventoryId uid catalog) ++
      " active service(s) still consume this inventory item. Remove it " ++
      "from those services first."))
  else
    .ok ()

/-- `InventoryService.archive`. -/
def archiveInventory (inventoryId : ObjectId) (uid : Uid) (shop : Shop) :
    Except ServiceError Shop :=
  shop.changeInventory inventoryId uid
    (assertArchivable inventoryId uid shop.catalog)
    fun item => { item with isArchived := true }

/-- `InventoryService.restore`. -/
def restoreInventory (inventoryId : ObjectId) (uid : Uid) (shop : Shop) :
    Except ServiceError Shop :=
  shop.changeInventory inventoryId uid (fun item =>
      if item.isArchived then
        .ok ()
      else
        .error (.badRequest "Inventory item is not archived"))
    fun item => { item with isArchived := false }

def deleteInventory (inventoryId : ObjectId) (shop : Shop) : Shop :=
  shop.writeInventory (shop.state.store.inventory.erase inventoryId)

end Shop

section

variable {shop after : Shop} {uid : Uid}

theorem Shop.changeProduct_ok {productId : ObjectId}
    {check : Product → Except ServiceError Unit}
    {change : Product → Product}
    (changed : shop.changeProduct productId uid check change = .ok after) :
    ∃ product, shop.catalog.products.lookup productId = some product ∧
      after = shop.writeProducts (shop.catalog.products.insert productId (change product)) := by
  rw [Shop.changeProduct] at changed
  split at changed
  · cases changed
  · rename_i product stored
    split at changed
    · cases changed
    · rcases map_eq_ok.mp changed with ⟨_, _, rfl⟩
      exact ⟨product, stored, rfl⟩

theorem Shop.changeService_ok {serviceId : ObjectId}
    {check : Service → Except ServiceError Unit}
    {change : Service → Option Service}
    (changed : shop.changeService serviceId uid check change = .ok after) :
    ∃ services, after = shop.writeServices services := by
  rw [Shop.changeService] at changed
  split at changed
  · cases changed
  · rcases map_eq_ok.mp changed with ⟨_, _, rfl⟩
    exact ⟨_, rfl⟩

theorem Shop.changeInventory_ok {inventoryId : ObjectId}
    {check : Inventory → Except ServiceError Unit}
    {change : Inventory → Inventory}
    (changed : shop.changeInventory inventoryId uid check change = .ok after) :
    ∃ item, shop.state.store.inventory.lookup inventoryId = some item ∧
      after = shop.writeInventory
        (shop.state.store.inventory.insert inventoryId (change item)) := by
  rw [Shop.changeInventory] at changed
  split at changed
  · cases changed
  · rename_i item found
    rcases map_eq_ok.mp changed with ⟨_, _, rfl⟩
    exact ⟨item, (Option.filter_eq_some_iff.mp found).1, rfl⟩

end

/-- What can happen next: a step of the point of sale, or an edit. -/
inductive ShopAction where
  | sale (action : Action)
  | updateProduct (productId : ObjectId) (uid : Uid) (input : UpdateProductInput)
  | archiveProduct (productId : ObjectId) (uid : Uid)
  | restoreProduct (productId : ObjectId) (uid : Uid)
  | deleteProduct (productId : ObjectId)
  | updateService (serviceId : ObjectId) (uid : Uid) (input : UpdateServiceInput)
  | archiveService (serviceId : ObjectId) (uid : Uid)
  | restoreService (serviceId : ObjectId) (uid : Uid)
  | deleteService (serviceId : ObjectId) (uid : Uid)
  | updateInventory (inventoryId : ObjectId) (uid : Uid) (input : UpdateInventoryInput)
  | archiveInventory (inventoryId : ObjectId) (uid : Uid)
  | restoreInventory (inventoryId : ObjectId) (uid : Uid)
  | deleteInventory (inventoryId : ObjectId)

/-- One step; `none` when it is refused without a write. -/
def shopStep : ShopAction → Shop → Option Shop
  | .sale action, shop =>
    (step shop.catalog action shop.state).map fun state =>
      { shop with state }
  | .updateProduct productId uid input, shop =>
    (shop.updateProduct productId uid input).toOption
  | .archiveProduct productId uid, shop =>
    (shop.archiveProduct productId uid).toOption
  | .restoreProduct productId uid, shop =>
    (shop.restoreProduct productId uid).toOption
  | .deleteProduct productId, shop => some (shop.deleteProduct productId)
  | .updateService serviceId uid input, shop =>
    (shop.updateService serviceId uid input).toOption
  | .archiveService serviceId uid, shop =>
    (shop.archiveService serviceId uid).toOption
  | .restoreService serviceId uid, shop =>
    (shop.restoreService serviceId uid).toOption
  | .deleteService serviceId uid, shop =>
    (shop.deleteService serviceId uid).toOption
  | .updateInventory inventoryId uid input, shop =>
    (shop.updateInventory inventoryId uid input).toOption
  | .archiveInventory inventoryId uid, shop =>
    (shop.archiveInventory inventoryId uid).toOption
  | .restoreInventory inventoryId uid, shop =>
    (shop.restoreInventory inventoryId uid).toOption
  | .deleteInventory inventoryId, shop =>
    some (shop.deleteInventory inventoryId)

def shopSystem : System Shop ShopAction := { step := shopStep }

end Lalaba.Pos
