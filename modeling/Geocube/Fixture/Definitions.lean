/-!
Definitions used to set up catalogs: the `eo3` metadata type, a metadata type
with a text-valued `cloud_cover`, and two products of the `eo3` type, as the
YAML a deployment would index.
-/

namespace Geocube
namespace Fixture

/-- The `eo3` metadata type: where the EO3 layout keeps each dataset field, and its search fields. -/
def eo3MetadataType : String :=
  "\n" ++
  "name: eo3\n" ++
  "description: Default EO3 with no custom fields\n" ++
  "dataset:\n" ++
  "  id: [id]\n" ++
  "  sources: [lineage, source_datasets]\n" ++
  "  creation_dt: [properties, 'odc:processing_datetime']\n" ++
  "  label: [label]\n" ++
  "  format: [properties, 'odc:file_format']\n" ++
  "  crs: [crs]\n" ++
  "  grids: [grids]\n" ++
  "  geometry: [geometry]\n" ++
  "  measurements: [measurements]\n" ++
  "  search_fields:\n" ++
  "    platform:\n" ++
  "      description: Platform code\n" ++
  "      offset: [properties, 'eo:platform']\n" ++
  "    instrument:\n" ++
  "      description: Instrument name\n" ++
  "      offset: [properties, 'eo:instrument']\n" ++
  "    region_code:\n" ++
  "      description: Spatial reference code from the provider\n" ++
  "      offset: [properties, 'odc:region_code']\n" ++
  "    cloud_cover:\n" ++
  "      description: Cloud cover percentage\n" ++
  "      type: double\n" ++
  "      offset: [properties, 'eo:cloud_cover']\n" ++
  "    time:\n" ++
  "      description: Acquisition time range\n" ++
  "      type: datetime-range\n" ++
  "      min_offset:\n" ++
  "        - [properties, 'dtr:start_datetime']\n" ++
  "        - [properties, datetime]\n" ++
  "      max_offset:\n" ++
  "        - [properties, 'dtr:end_datetime']\n" ++
  "        - [properties, datetime]\n" ++
  "    lat:\n" ++
  "      description: Latitude range\n" ++
  "      type: double-range\n" ++
  "      min_offset:\n" ++
  "        - [extent, lat, begin]\n" ++
  "      max_offset:\n" ++
  "        - [extent, lat, end]\n" ++
  "    lon:\n" ++
  "      description: Longitude range\n" ++
  "      type: double-range\n" ++
  "      min_offset:\n" ++
  "        - [extent, lon, begin]\n" ++
  "      max_offset:\n" ++
  "        - [extent, lon, end]\n"

/-- A metadata type whose `cloud_cover` is text, so that a search on it is ambiguous across types. -/
def telemetryMetadataType : String :=
  "\n" ++
  "name: telemetry\n" ++
  "dataset:\n" ++
  "  id: [id]\n" ++
  "  creation_dt: [created]\n" ++
  "  search_fields:\n" ++
  "    cloud_cover:\n" ++
  "      offset: [properties, cloud_cover_class]\n" ++
  "    time:\n" ++
  "      type: datetime\n" ++
  "      offset: [properties, datetime]\n"

/-- A surface-reflectance product with two bands and a bit-flag quality band. -/
def ls8Product : String :=
  "\n" ++
  "name: ls8_ard\n" ++
  "description: Landsat 8 analysis ready data\n" ++
  "metadata_type: eo3\n" ++
  "license: CC-BY-4.0\n" ++
  "metadata:\n" ++
  "  product:\n" ++
  "    name: ls8_ard\n" ++
  "load:\n" ++
  "  crs: 'EPSG:4326'\n" ++
  "  resolution: \x7bx: 0.1, y: -0.1\x7d\n" ++
  "measurements:\n" ++
  "  - name: red\n" ++
  "    dtype: int16\n" ++
  "    nodata: -999\n" ++
  "    units: '1'\n" ++
  "    aliases: [band04, nbart_red]\n" ++
  "  - name: nir\n" ++
  "    dtype: int16\n" ++
  "    nodata: -999\n" ++
  "    units: '1'\n" ++
  "    aliases: [band05]\n" ++
  "  - name: fmask\n" ++
  "    dtype: uint8\n" ++
  "    nodata: 0\n" ++
  "    units: '1'\n" ++
  "    flags_definition:\n" ++
  "      fmask:\n" ++
  "        bits: [0, 1, 2, 3, 4, 5, 6, 7]\n" ++
  "        description: Fmask classification\n" ++
  "        values:\n" ++
  "          '0': nodata\n" ++
  "          '1': valid\n" ++
  "          '2': cloud\n" ++
  "          '3': shadow\n" ++
  "          '4': snow\n" ++
  "          '5': water\n" ++
  "      cloud:\n" ++
  "        bits: [1]\n" ++
  "        values:\n" ++
  "          '0': false\n" ++
  "          '1': true\n"

/-- A second product of the `eo3` type, with one band. -/
def s2Product : String :=
  "\n" ++
  "name: s2_ard\n" ++
  "description: Sentinel-2 analysis ready data\n" ++
  "metadata_type: eo3\n" ++
  "metadata:\n" ++
  "  product:\n" ++
  "    name: s2_ard\n" ++
  "measurements:\n" ++
  "  - name: red\n" ++
  "    dtype: uint16\n" ++
  "    nodata: 0\n" ++
  "    aliases: [band04]\n"

/-- The definition text of a fixture, by its name. -/
def definitionText? (name : String) : Option String :=
  match name with
  | "EO3_METADATA_TYPE" => some eo3MetadataType
  | "TELEMETRY_METADATA_TYPE" => some telemetryMetadataType
  | "LS8_PRODUCT" => some ls8Product
  | "S2_PRODUCT" => some s2Product
  | _ => none

end Fixture
end Geocube
